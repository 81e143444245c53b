import GrpcRelay.ControllerClient

/-!
# Matching of responses to requests

Which call of a controller session a response is handed to.  The table of pending requests is
compared with the calls that the log of the session leaves waiting: the newest call of a sequence
number, until a response to the number arrives or the call itself cleans up.  The two agree as long
as no call cleans up while a newer one of the same number is waiting, for the code removes the entry
of the number, whose ever it is.
-/

namespace GrpcRelay.ControllerSdk

/-! ## Where a call stands -/

/-- The call has put its sender into the table. -/
def CallPc.inserted : CallPc → Bool
  | .idle | .inserting _ => false
  | _ => true

/-- The request of a call that has put its sender into the table and has not returned. -/
def CallPc.active : CallPc → Option Request
  | .dropping request _ | .sending request | .waiting request | .removing request _ => some request
  | _ => none

/-- The call waits for its response. -/
def CallPc.isWaiting : CallPc → Bool
  | .waiting _ => true
  | _ => false

theorem CallPc.inserted_of_active {pc : CallPc} {request : Request}
    (h : pc.active = some request) : pc.inserted = true := by
  cases pc <;> simp_all [active, inserted]

/-! ## Where a sender is -/

/-- The sender of a call is in one place: in the table under the number of the call, with the
dispatch task, or with the call that replaced it; and until it is used its channel is empty. -/
structure Located (σ : State) : Prop where
  table : ∀ s i, σ.pending.lookup s = some i → ∃ request, (σ.calls i).active = some request ∧
    request.sequenceNumber = s ∧ σ.channels i = .empty
  held : ∀ i result, σ.dispatcher = .completing i result → (σ.calls i).inserted = true ∧
    σ.channels i = .empty ∧ (∀ s, σ.pending.lookup s ≠ some i) ∧
      ∀ k request, σ.calls k ≠ .dropping request i
  replaced : ∀ k request j, σ.calls k = .dropping request j → (σ.calls j).inserted = true ∧
    ∀ s, σ.pending.lookup s ≠ some j
  fresh : ∀ i, (σ.calls i).inserted = false → σ.channels i = .empty

theorem located_init : Located {} where
  table s i h := by simp at h
  held i result h := by cases h
  replaced k request j h := by cases h
  fresh i h := rfl

section Located

variable {σ σ' : State} {i j : CallId}

/-- A sender is in the table under one number only. -/
theorem Located.lookup_inj (h : Located σ) {s s' : ℤ} (hs : σ.pending.lookup s = some i)
    (hs' : σ.pending.lookup s' = some i) : s = s' := by
  obtain ⟨request, hactive, rfl, -⟩ := h.table s i hs
  obtain ⟨request', hactive', rfl, -⟩ := h.table s' i hs'
  rw [hactive] at hactive'
  cases hactive'
  rfl

@[simp] theorem goto_calls (σ : State) (i j : CallId) (pc : CallPc) :
    (σ.goto i pc).calls j = if j = i then pc else σ.calls j := by
  simp [State.goto, Function.update_apply]

@[simp] theorem goto_pending (σ : State) (i : CallId) (pc : CallPc) :
    (σ.goto i pc).pending = σ.pending := rfl

@[simp] theorem goto_channels (σ : State) (i : CallId) (pc : CallPc) :
    (σ.goto i pc).channels = σ.channels := rfl

@[simp] theorem goto_dispatcher (σ : State) (i : CallId) (pc : CallPc) :
    (σ.goto i pc).dispatcher = σ.dispatcher := rfl

@[simp] theorem goto_log (σ : State) (i : CallId) (pc : CallPc) :
    (σ.goto i pc).log = σ.log := rfl

/-- A call goes on, and keeps its request while its sender is in the table. -/
theorem Located.goto (h : Located σ) {pc : CallPc}
    (hinserted : (σ.calls i).inserted = true → pc.inserted = true)
    (hdrop : ∀ request j, pc ≠ .dropping request j)
    (hactive : ∀ s, σ.pending.lookup s = some i → pc.active = (σ.calls i).active) :
    Located (σ.goto i pc) where
  table s j hj := by
    obtain ⟨request, hrequest, hs, hempty⟩ := h.table s j hj
    refine ⟨request, ?_, hs, hempty⟩
    rw [goto_calls]
    split_ifs with hji
    · subst hji
      rw [hactive s hj, hrequest]
    · exact hrequest
  held j result hj := by
    obtain ⟨hins, hempty, htable, hnone⟩ := h.held j result hj
    refine ⟨?_, hempty, htable, fun k request hk => ?_⟩
    · rw [goto_calls]
      split_ifs with hji
      · exact hinserted (hji ▸ hins)
      · exact hins
    · rw [goto_calls] at hk
      split_ifs at hk
      · exact hdrop _ _ hk
      · exact hnone k request hk
  replaced k request j hk := by
    rw [goto_calls] at hk
    split_ifs at hk
    · exact absurd hk (hdrop _ _)
    · obtain ⟨hins, htable⟩ := h.replaced k request j hk
      refine ⟨?_, htable⟩
      rw [goto_calls]
      split_ifs with hji
      · exact hinserted (hji ▸ hins)
      · exact hins
  fresh j hj := by
    rw [goto_calls] at hj
    split_ifs at hj with hji
    · refine h.fresh j (Bool.eq_false_iff.mpr fun hins => ?_)
      simp [hinserted (hji ▸ hins)] at hj
    · exact h.fresh j hj

/-- A call puts its sender into the table. -/
theorem Located.insert (h : Located σ) {request : Request}
    (hi : σ.calls i = .inserting request) : Located (σ.insert i request) := by
  have hnew (j : CallId) (hj : (σ.calls j).inserted = true) : j ≠ i := by
    rintro rfl
    simp [hi, CallPc.inserted] at hj
  have hself : ∃ pc, (σ.insert i request).calls = Function.update σ.calls i pc ∧
      pc.active = some request ∧ ∀ request' j, pc = .dropping request' j →
        σ.pending.lookup request.sequenceNumber = some j := by
    refine ⟨_, rfl, ?_⟩
    split
    · exact ⟨rfl, fun request' j hpc => by cases hpc⟩
    · rename_i previous hprevious
      refine ⟨rfl, fun request' j hpc => ?_⟩
      cases hpc
      exact hprevious
  obtain ⟨pc, hcalls, hactive, hpc⟩ := hself
  have hlookup (s : ℤ) : (σ.insert i request).pending.lookup s =
      if s = request.sequenceNumber then some i else σ.pending.lookup s :=
    DashMap.lookup_insert_ite _ _ _ _
  have hcall (j : CallId) (hj : j ≠ i) : (σ.insert i request).calls j = σ.calls j := by
    rw [hcalls, Function.update_of_ne hj]
  have hcall_self : (σ.insert i request).calls i = pc := by
    rw [hcalls, Function.update_self]
  have hins : ∀ j, (σ.calls j).inserted = true → ((σ.insert i request).calls j).inserted = true :=
    fun j hj => by rwa [hcall j (hnew j hj)]
  constructor
  · intro s j hj
    rw [hlookup] at hj
    split_ifs at hj with hs
    · cases hj
      refine ⟨request, by rw [hcall_self, hactive], hs.symm, h.fresh i ?_⟩
      rw [hi, CallPc.inserted]
    · obtain ⟨request', hrequest, hs', hempty⟩ := h.table s j hj
      refine ⟨request', ?_, hs', hempty⟩
      rw [hcall j (hnew j (CallPc.inserted_of_active hrequest)), hrequest]
  · intro j result hj
    obtain ⟨hinserted, hempty, htable, hnone⟩ := h.held j result hj
    refine ⟨hins j hinserted, hempty, fun s hs => ?_, fun k request' hk => ?_⟩
    · rw [hlookup] at hs
      split_ifs at hs
      · cases hs
        exact hnew _ hinserted rfl
      · exact htable s hs
    · by_cases hki : k = i
      · rw [hki, hcall_self] at hk
        exact htable _ (hpc _ _ hk)
      · rw [hcall k hki] at hk
        exact hnone k request' hk
  · intro k request' j hk
    have hj : (σ.calls j).inserted = true ∧
        ∀ s, s ≠ request.sequenceNumber → σ.pending.lookup s ≠ some j := by
      by_cases hki : k = i
      · rw [hki, hcall_self] at hk
        have hold := hpc _ _ hk
        obtain ⟨request₀, hrequest₀, -⟩ := h.table _ _ hold
        refine ⟨CallPc.inserted_of_active hrequest₀, fun s hs hs' => ?_⟩
        exact hs (h.lookup_inj hs' hold)
      · rw [hcall k hki] at hk
        obtain ⟨hinserted, htable⟩ := h.replaced k request' j hk
        exact ⟨hinserted, fun s _ => htable s⟩
    refine ⟨hins j hj.1, fun s hs => ?_⟩
    rw [hlookup] at hs
    split_ifs at hs with hs'
    · cases hs
      exact hnew _ hj.1 rfl
    · exact hj.2 s hs' hs
  · intro j hj
    refine h.fresh j (Bool.eq_false_iff.mpr fun hinserted => ?_)
    simp [hins j hinserted] at hj

/-- A sender outside the table and the dispatch task is dropped. -/
theorem Located.dropSender (h : Located σ) (hinserted : (σ.calls j).inserted = true)
    (htable : ∀ s, σ.pending.lookup s ≠ some j)
    (hheld : ∀ result, σ.dispatcher ≠ .completing j result) :
    Located (σ.dropSender (some j)) := by
  have hother (k : CallId) (hk : k ≠ j) : (σ.dropSender (some j)).channels k = σ.channels k :=
    Function.update_of_ne hk _ _
  constructor
  · intro s k hk
    obtain ⟨request, hrequest, hs, hempty⟩ := h.table s k hk
    refine ⟨request, hrequest, hs, ?_⟩
    rw [hother k (fun hkj => htable s (hkj ▸ hk)), hempty]
  · intro k result hk
    obtain ⟨hins, hempty, hnone⟩ := h.held k result hk
    refine ⟨hins, ?_, hnone⟩
    rw [hother k (fun hkj => hheld result (hkj ▸ hk)), hempty]
  · exact h.replaced
  · intro k hk
    rw [hother k, h.fresh k hk]
    rintro rfl
    exact absurd hinserted (Bool.eq_false_iff.mp hk)

/-- An entry is taken out of the table. -/
theorem Located.erase (h : Located σ) (s : ℤ) :
    Located { σ with pending := σ.pending.erase s } := by
  have hsub (s' : ℤ) (k : CallId) (hk : (σ.pending.erase s).lookup s' = some k) :
      σ.pending.lookup s' = some k := by
    rw [DashMap.lookup_erase_ite] at hk
    split_ifs at hk
    exact hk
  constructor
  · exact fun s' k hk => h.table s' k (hsub s' k hk)
  · intro k result hk
    obtain ⟨hins, hempty, htable, hnone⟩ := h.held k result hk
    exact ⟨hins, hempty, fun s' hs' => htable s' (hsub s' k hs'), hnone⟩
  · intro k request j hk
    obtain ⟨hins, htable⟩ := h.replaced k request j hk
    exact ⟨hins, fun s' hs' => htable s' (hsub s' j hs')⟩
  · exact h.fresh

theorem Located.notMem_erase (h : Located σ) {s : ℤ} (hs : σ.pending.lookup s = some j) (s' : ℤ) :
    (σ.pending.erase s).lookup s' ≠ some j := by
  intro hs'
  rw [DashMap.lookup_erase_ite] at hs'
  split_ifs at hs' with heq
  exact heq (h.lookup_inj hs' hs)

theorem Located.remove (h : Located σ) (i : CallId) (s : ℤ) : Located (σ.remove i s) := by
  have herase := h.erase s
  cases hs : σ.pending.lookup s with
  | none =>
    unfold State.remove
    rw [hs]
    exact ⟨herase.table, herase.held, herase.replaced, herase.fresh⟩
  | some j =>
    obtain ⟨request, hrequest, -⟩ := h.table s j hs
    have hdropped := herase.dropSender (j := j) (CallPc.inserted_of_active hrequest)
      (h.notMem_erase hs) fun result hj => (h.held j result hj).2.2.1 s hs
    unfold State.remove
    rw [hs]
    exact ⟨hdropped.table, hdropped.held, hdropped.replaced, hdropped.fresh⟩

theorem Located.take (h : Located σ) (response : DeviceResponse) : Located (σ.take response) := by
  have herase := h.erase response.sequenceNumber
  refine ⟨herase.table, fun j result hj => ?_, herase.replaced, herase.fresh⟩
  cases hs : σ.pending.lookup response.sequenceNumber with
  | none => simp [State.take, hs] at hj
  | some k =>
    simp only [State.take, hs, Dispatcher.completing.injEq] at hj
    obtain ⟨rfl, -⟩ := hj
    obtain ⟨request, hrequest, -, hempty⟩ := h.table _ k hs
    refine ⟨CallPc.inserted_of_active hrequest, hempty, h.notMem_erase hs, ?_⟩
    intro k' request' hk'
    exact (h.replaced k' request' k hk').2 _ hs

/-- The dispatch task hands a response over. -/
theorem Located.complete (h : Located σ) {result : SequenceResult}
    (hd : σ.dispatcher = .completing i result) :
    Located { σ with
      channels := Function.update σ.channels i ((σ.channels i).send result)
      dispatcher := .reading } := by
  obtain ⟨hins, -, htable, -⟩ := h.held i result hd
  constructor
  · intro s k hk
    obtain ⟨request, hrequest, hs, hempty⟩ := h.table s k hk
    have hki : k ≠ i := by
      rintro rfl
      exact htable s hk
    refine ⟨request, hrequest, hs, ?_⟩
    dsimp only
    rw [Function.update_of_ne hki, hempty]
  · intro k r hk
    cases hk
  · exact h.replaced
  · intro k hk
    dsimp only
    rw [Function.update_of_ne, h.fresh k hk]
    rintro rfl
    exact absurd hins (Bool.eq_false_iff.mp hk)

theorem Located.step (h : Located σ) {opts : Options} {a : Action}
    (hstep : step opts σ a = some σ') : Located σ' := by
  cases a with
  | call i request =>
    simp only [ControllerSdk.step] at hstep
    split at hstep
    · rename_i hidle
      have hnone (s : ℤ) : σ.pending.lookup s ≠ some i := by
        intro hs
        obtain ⟨_, hactive, -⟩ := h.table s i hs
        simp [hidle, CallPc.active] at hactive
      split_ifs at hstep <;> cases hstep <;>
        exact h.goto (by simp [hidle, CallPc.inserted]) (by simp) fun s hs => absurd hs (hnone s)
    · cases hstep
  | insert i =>
    simp only [ControllerSdk.step] at hstep
    split at hstep <;> cases hstep
    rename_i request hi
    exact h.insert hi
  | dropPrevious i =>
    simp only [ControllerSdk.step] at hstep
    split at hstep <;> cases hstep
    rename_i request previous hi
    obtain ⟨hins, htable⟩ := h.replaced i request previous hi
    refine (h.dropSender hins htable fun result hd => ?_).goto ?_ (by simp) fun s hs => ?_
    · exact (h.held previous result hd).2.2.2 i request hi
    · exact fun _ => rfl
    · exact (congrArg CallPc.active hi).symm
  | send i accepted =>
    simp only [ControllerSdk.step] at hstep
    split at hstep
    · rename_i request hi _
      have hgo (pc : CallPc) (hins : pc.inserted = true) (hactive : pc.active = some request)
          (hdrop : ∀ request j, pc ≠ .dropping request j) : Located (σ.goto i pc) :=
        h.goto (fun _ => hins) hdrop fun s _ => by rw [hactive, hi, CallPc.active]
      split_ifs at hstep <;> cases hstep
      · obtain ⟨htable, hheld, hreplaced, hfresh⟩ := hgo (.waiting request) rfl rfl (by simp)
        exact ⟨htable, hheld, hreplaced, hfresh⟩
      · obtain ⟨htable, hheld, hreplaced, hfresh⟩ :=
          hgo (.removing request .streamClosed) rfl rfl (by simp)
        exact ⟨htable, hheld, hreplaced, hfresh⟩
    · cases hstep
  | receive i =>
    simp only [ControllerSdk.step] at hstep
    split at hstep <;> cases hstep
    · rename_i request result hi hc
      refine h.goto (fun _ => rfl) (by simp) fun s hs => ?_
      obtain ⟨_, -, -, hempty⟩ := h.table s i hs
      simp [hempty] at hc
    · rename_i request hi hc
      exact h.goto (fun _ => rfl) (by simp) fun s _ => (congrArg CallPc.active hi).symm
  | timeout i =>
    simp only [ControllerSdk.step] at hstep
    split at hstep <;> cases hstep
    rename_i request hi hc
    exact h.goto (fun _ => rfl) (by simp) fun s _ => (congrArg CallPc.active hi).symm
  | remove i =>
    simp only [ControllerSdk.step] at hstep
    split at hstep <;> cases hstep
    rename_i request error hi
    have hgo : Located ((σ.remove i request.sequenceNumber).goto i (.done (.error error))) := by
      refine (h.remove i _).goto (fun _ => rfl) (by simp) fun s hs => ?_
      simp only [State.remove, DashMap.lookup_erase_ite] at hs
      split_ifs at hs with hne
      obtain ⟨request', hactive, heq, -⟩ := h.table s i hs
      simp only [hi, CallPc.active, Option.some.injEq] at hactive
      exact absurd heq.symm (hactive ▸ hne)
    exact ⟨hgo.table, hgo.held, hgo.replaced, hgo.fresh⟩
  | arrive response =>
    simp only [ControllerSdk.step] at hstep
    split at hstep <;> cases hstep
    exact h.take response
  | complete =>
    simp only [ControllerSdk.step] at hstep
    split at hstep <;> cases hstep
    rename_i i result hd
    exact h.complete hd
  | stop =>
    simp only [ControllerSdk.step] at hstep
    split at hstep <;> cases hstep
    exact ⟨h.table, fun i result hd => (by cases hd), h.replaced, h.fresh⟩

end Located

/-! ## What the log says -/

/-- The newest call of a sequence number. -/
def newest (s : ℤ) : List Event → Option CallId
  | [] => none
  | .inserted i s' :: log => if s' = s then some i else newest s log
  | _ :: log => newest s log

/-- The call that a response to the number is for: the newest one, until a response arrives or the
call itself cleans up. -/
def awaiting (s : ℤ) : List Event → Option CallId
  | [] => none
  | .inserted i s' :: log => if s' = s then some i else awaiting s log
  | .arrived response :: log => if response.sequenceNumber = s then none else awaiting s log
  | .removed i s' :: log =>
    if s' = s ∧ awaiting s log = some i then none else awaiting s log
  | .sent _ _ :: log => awaiting s log

/-- A response has arrived. -/
def Event.isArrived : Event → Bool
  | .arrived _ => true
  | _ => false

/-- The call has sent its message. -/
def Event.isSentBy (i : CallId) : Event → Bool
  | .sent j _ => j = i
  | _ => false

/-- The last response arrived after the call had sent its message. -/
def answersSent (i : CallId) (log : List Event) : Bool :=
  (log.dropWhile fun e => !e.isArrived).any (Event.isSentBy i)

/-- The step does not reach one of the three races of the client: a call cleans up while a newer
one of its number is waiting, a call times out while the response to its message is handed over, or
a second response arrives before the call has returned the first one. -/
def orderly (σ : State) : Action → Bool
  | .remove i =>
    match σ.calls i with
    | .removing request _ =>
      match awaiting request.sequenceNumber σ.log with
      | some j => j = i
      | none => true
    | _ => true
  | .timeout i =>
    match σ.dispatcher with
    | .completing j _ => !(j = i && answersSent i σ.log)
    | _ => true
  | .arrive response =>
    match newest response.sequenceNumber σ.log with
    | some i => !(σ.calls i).isWaiting || awaiting response.sequenceNumber σ.log = some i
    | none => true
  | _ => true

/-- The condition on a step of a run. -/
def Orderly (σ : State) (a : Action) : Prop := orderly σ a = true

/-- The runs of a session. -/
def Reachable (opts : Options) (ok : State → Action → Prop) : State → Prop :=
  Runs.Reach (step opts) ok {}

theorem located_of_reachable {opts : Options} {ok : State → Action → Prop} {σ : State}
    (h : Reachable opts ok σ) : Located σ :=
  Runs.Reach.invariant located_init (fun _ _ _ _ hI _ hs => hI.step hs) h

section Faithful

variable {opts : Options} {σ σ' : State} {a : Action}

/-- The table holds the calls that the log leaves waiting. -/
def Faithful (σ : State) : Prop := ∀ s, σ.pending.lookup s = awaiting s σ.log

theorem faithful_insert (h : Faithful σ) (i : CallId) (request : Request) :
    Faithful (σ.insert i request) := by
  intro s
  simp only [State.insert, DashMap.lookup_insert_ite, awaiting, h s, eq_comm]

theorem faithful_take (h : Faithful σ) (response : DeviceResponse) :
    Faithful (σ.take response) := by
  intro s
  simp only [State.take, DashMap.lookup_erase_ite, awaiting, h s, eq_comm]

/-- A call that cleans up while no other of its number is waiting takes out its own entry at
most. -/
theorem faithful_remove (h : Faithful σ) {i : CallId} {s : ℤ}
    (hown : ∀ j, awaiting s σ.log = some j → j = i) : Faithful (σ.remove i s) := by
  intro s'
  simp only [State.remove, DashMap.lookup_erase_ite, awaiting, h s', eq_comm]
  by_cases hs : s = s'
  · subst hs
    cases hwaiting : awaiting s σ.log with
    | none => simp
    | some j => simp [hown j hwaiting]
  · simp [hs]

theorem own_of_orderly {i : CallId} {request : Request} {error : ControllerSdkError}
    (hi : σ.calls i = .removing request error) (hok : Orderly σ (.remove i)) :
    ∀ j, awaiting request.sequenceNumber σ.log = some j → j = i := by
  intro j hj
  simpa [Orderly, orderly, hi, hj] using hok

theorem Faithful.step (h : Faithful σ) (hok : Orderly σ a) (hstep : step opts σ a = some σ') :
    Faithful σ' := by
  cases a with
  | insert i =>
    simp only [ControllerSdk.step] at hstep
    split at hstep <;> cases hstep
    exact faithful_insert h _ _
  | remove i =>
    simp only [ControllerSdk.step] at hstep
    split at hstep <;> cases hstep
    rename_i request error hi
    exact faithful_remove h (own_of_orderly hi hok)
  | arrive response =>
    simp only [ControllerSdk.step] at hstep
    split at hstep <;> cases hstep
    exact faithful_take h response
  | call i request | dropPrevious i | send i accepted | receive i | timeout i | complete | stop =>
    simp only [ControllerSdk.step] at hstep
    repeat' split at hstep
    all_goals cases hstep
    all_goals exact h

theorem faithful_of_reachable (h : Reachable opts Orderly σ) : Faithful σ :=
  Runs.Reach.invariant (fun _ => rfl) (fun _ _ _ _ hI hok hs => hI.step hok hs) h

end Faithful

/-! ## A response on its way -/

/-- The call that a step is of. -/
def Action.actor : Action → Option CallId
  | .call i _ | .insert i | .dropPrevious i | .send i _ | .receive i | .timeout i | .remove i =>
    some i
  | _ => none

section Due

variable {opts : Options} {σ σ' : State} {a : Action} {i : CallId} {result : SequenceResult}

theorem calls_of_step (hstep : step opts σ a = some σ') (ha : a.actor ≠ some i) :
    σ'.calls i = σ.calls i := by
  cases a with
  | arrive response | complete | stop =>
    simp only [ControllerSdk.step] at hstep
    split at hstep <;> cases hstep
    rfl
  | call j request | insert j | dropPrevious j | send j accepted | receive j | timeout j
  | remove j =>
    have hij : i ≠ j := fun h => ha (congrArg some h.symm)
    simp only [ControllerSdk.step] at hstep
    repeat' split at hstep
    all_goals cases hstep
    all_goals exact Function.update_of_ne hij _ _

/-- A call that waits goes on by receiving or by timing out. -/
theorem waiting_of_step {request : Request} (hstep : step opts σ a = some σ')
    (hi : σ.calls i = .waiting request) :
    σ'.calls i = .waiting request ∨ a = .receive i ∨ a = .timeout i := by
  by_cases ha : a.actor = some i
  · cases a with
    | receive j =>
      cases ha
      exact .inr (.inl rfl)
    | timeout j =>
      cases ha
      exact .inr (.inr rfl)
    | arrive response | complete | stop => cases ha
    | call j request | insert j | dropPrevious j | send j accepted | remove j =>
      cases ha
      simp [ControllerSdk.step, hi] at hstep
  · exact .inl ((calls_of_step hstep ha).trans hi)

theorem done_of_step (hstep : step opts σ a = some σ') (hi : σ.calls i = .done result) :
    σ'.calls i = .done result := by
  by_cases ha : a.actor = some i
  · cases a <;> cases ha
    all_goals simp [ControllerSdk.step, hi] at hstep
  · exact (calls_of_step hstep ha).trans hi

@[simp] theorem dropSender_channels_holding (hi : σ.channels i = .holding result)
    (j : Option CallId) : (σ.dropSender j).channels i = .holding result := by
  cases j with
  | none => exact hi
  | some j =>
    by_cases hij : i = j
    · subst hij
      simp [State.dropSender, hi, Channel.drop]
    · simp [State.dropSender, Function.update_of_ne hij, hi]

/-- A result stays in its channel. -/
theorem holding_of_step (hstep : step opts σ a = some σ') (hi : σ.channels i = .holding result) :
    σ'.channels i = .holding result := by
  cases a with
  | dropPrevious j =>
    simp only [ControllerSdk.step] at hstep
    split at hstep <;> cases hstep
    rename_i request previous _
    exact dropSender_channels_holding hi (some previous)
  | remove j =>
    simp only [ControllerSdk.step] at hstep
    split at hstep <;> cases hstep
    exact dropSender_channels_holding hi _
  | complete =>
    simp only [ControllerSdk.step] at hstep
    split at hstep <;> cases hstep
    rename_i j r hd
    by_cases hij : i = j
    · subst hij
      simp [hi, Channel.send]
    · simp [Function.update_of_ne hij, hi]
  | call j request | insert j | send j accepted | receive j | timeout j | arrive response | stop =>
    simp only [ControllerSdk.step] at hstep
    repeat' split at hstep
    all_goals cases hstep
    all_goals exact hi

/-- While a response is handed over, nothing but that step changes the dispatch task, and no other
response arrives. -/
theorem completing_of_step (hstep : step opts σ a = some σ')
    (hd : σ.dispatcher = .completing i result) :
    a = .complete ∨ σ'.dispatcher = .completing i result ∧
      answersSent i σ'.log = answersSent i σ.log := by
  cases a with
  | complete => exact .inl rfl
  | arrive response | stop => simp [ControllerSdk.step, hd] at hstep
  | call j request | insert j | dropPrevious j | send j accepted | receive j | timeout j
  | remove j =>
    simp only [ControllerSdk.step] at hstep
    repeat' split at hstep
    all_goals cases hstep
    all_goals exact .inr ⟨hd, rfl⟩

/-- The result is on its way to the call, or the call has returned it. -/
def Due (σ : State) (i : CallId) (result : SequenceResult) : Prop :=
  σ.calls i = .done result ∨
    (σ.calls i).isWaiting = true ∧ (σ.channels i = .holding result ∨
      σ.dispatcher = .completing i result ∧ answersSent i σ.log = true)

theorem Due.step (h : Due σ i result) (hlocated : Located σ) (hok : Orderly σ a)
    (hstep : step opts σ a = some σ') : Due σ' i result := by
  obtain hdone | ⟨hwaiting, hway⟩ := h
  · exact .inl (done_of_step hstep hdone)
  · obtain ⟨request, hi⟩ : ∃ request, σ.calls i = .waiting request := by
      cases hpc : σ.calls i <;> simp_all [CallPc.isWaiting]
    obtain hhold | ⟨hd, hsent⟩ := hway
    · obtain hsame | rfl | rfl := waiting_of_step hstep hi
      · exact .inr ⟨by rw [hsame]; rfl, .inl (holding_of_step hstep hhold)⟩
      · simp only [ControllerSdk.step, hi, hhold, Option.some.injEq] at hstep
        subst hstep
        exact .inl (by simp)
      · simp [ControllerSdk.step, hi, hhold] at hstep
    · have hempty := (hlocated.held i result hd).2.1
      obtain hsame | rfl | rfl := waiting_of_step hstep hi
      · refine .inr ⟨by rw [hsame]; rfl, ?_⟩
        obtain rfl | ⟨hd', hsent'⟩ := completing_of_step hstep hd
        · simp only [ControllerSdk.step, hd, Option.some.injEq] at hstep
          subst hstep
          exact .inl (by simp [hempty, Channel.send])
        · exact .inr ⟨hd', hsent'.trans hsent⟩
      · simp [ControllerSdk.step, hi, hempty] at hstep
      · simp [Orderly, orderly, hd, hsent] at hok

theorem due_of_reach (h : Due σ i result) (hlocated : Located σ)
    (hreach : Runs.Reach (step opts) Orderly σ σ') : Due σ' i result ∧ Located σ' :=
  Runs.Reach.invariant (I := fun σ' => Due σ' i result ∧ Located σ') ⟨h, hlocated⟩
    (fun _ _ _ _ hI hok hs => ⟨hI.1.step hI.2 hok hs, hI.2.step hs⟩) hreach

/-- From where the result is due, the call can go on to return it. -/
theorem Due.returns (h : Due σ i result) (hlocated : Located σ) (opts : Options) :
    ∃ as σ', Runs.execute (ControllerSdk.step opts) σ as = some σ' ∧
      σ'.calls i = .done result := by
  have hreceive (τ : State) (hτ : (τ.calls i).isWaiting = true)
      (hhold : τ.channels i = .holding result) :
      ControllerSdk.step opts τ (.receive i) = some (τ.goto i (.done result)) := by
    cases hpc : τ.calls i <;> simp_all [CallPc.isWaiting, ControllerSdk.step]
  obtain hdone | ⟨hwaiting, hhold | ⟨hd, -⟩⟩ := h
  · exact ⟨[], σ, rfl, hdone⟩
  · refine ⟨[.receive i], σ.goto i (.done result), ?_, by simp⟩
    simp [Runs.execute, hreceive σ hwaiting hhold]
  · have hempty := (hlocated.held i result hd).2.1
    let τ : State := { σ with
      channels := Function.update σ.channels i ((σ.channels i).send result)
      dispatcher := .reading }
    have hcomplete : ControllerSdk.step opts σ .complete = some τ := by
      simp only [ControllerSdk.step, hd, τ]
    have hhold : τ.channels i = .holding result := by
      simp [τ, hempty, Channel.send]
    refine ⟨[.complete, .receive i], τ.goto i (.done result), ?_, by simp⟩
    simp [Runs.execute, hcomplete, hreceive τ hwaiting hhold]

end Due

/-! ## The newest call is answered -/

/-- Every call but one keeps its entry in the table and its channel. -/
def SparesOthers (σ σ' : State) (i : CallId) : Prop :=
  ∀ j, j ≠ i → σ'.channels j = σ.channels j ∧
    ∀ s, σ.pending.lookup s = some j → σ'.pending.lookup s = some j

/-- The call returns nothing but the result, and can go on to return it. -/
def Returns (opts : Options) (σ : State) (i : CallId) (result : SequenceResult) : Prop :=
  (∀ r, σ.calls i = .done r → r = result) ∧
    ∃ as τ, Runs.execute (step opts) σ as = some τ ∧ τ.calls i = .done result

section Answered

variable {opts : Options} {σ σ' : State} {a : Action} {i : CallId} {result : SequenceResult}

theorem Due.returnsOnly (h : Due σ i result) (hlocated : Located σ) :
    Returns opts σ i result := by
  refine ⟨fun r hr => ?_, h.returns hlocated opts⟩
  obtain hdone | ⟨hwaiting, -⟩ := h
  · rw [hdone] at hr
    cases hr
    rfl
  · simp [hr, CallPc.isWaiting] at hwaiting

theorem log_of_step (hstep : step opts σ a = some σ') : ∃ events, σ'.log = events ++ σ.log := by
  cases a <;> simp only [step] at hstep <;> repeat' split at hstep
  all_goals cases hstep
  all_goals first | exact ⟨[], rfl⟩ | exact ⟨[_], rfl⟩

/-- A call comes to wait by sending its message. -/
theorem sent_or_waiting_of_step (hstep : step opts σ a = some σ')
    (hi : (σ'.calls i).isWaiting = true) :
    (σ.calls i).isWaiting = true ∨ σ'.log.any (Event.isSentBy i) = true := by
  by_cases ha : a.actor = some i
  · cases a with
    | arrive response | complete | stop => cases ha
    | call j request | dropPrevious j | receive j | timeout j | remove j =>
      cases ha
      simp only [step] at hstep
      repeat' split at hstep
      all_goals cases hstep
      all_goals simp [CallPc.isWaiting] at hi
    | insert j =>
      cases ha
      simp only [step] at hstep
      split at hstep <;> cases hstep
      simp only [State.insert, goto_calls, if_true] at hi
      split at hi <;> cases hi
    | send j accepted =>
      cases ha
      simp only [step] at hstep
      repeat' split at hstep
      all_goals cases hstep
      · exact .inr (by simp [Event.isSentBy])
      · simp [CallPc.isWaiting] at hi
  · rw [calls_of_step hstep ha] at hi
    exact .inl hi

/-- A call that waits has sent its message. -/
theorem sent_of_waiting {ok : State → Action → Prop} (h : Reachable opts ok σ) :
    ∀ i, (σ.calls i).isWaiting = true → σ.log.any (Event.isSentBy i) = true := by
  refine Runs.Reach.invariant (I := fun σ => ∀ i, (σ.calls i).isWaiting = true →
    σ.log.any (Event.isSentBy i) = true) (fun i hi => by cases hi) ?_ h
  intro σ a σ' _ hI _ hstep i hi
  obtain hold | hsent := sent_or_waiting_of_step hstep hi
  · obtain ⟨events, hlog⟩ := log_of_step hstep
    rw [hlog, List.any_append, hI i hold, Bool.or_true]
  · exact hsent

theorem sparesOthers_of_remove (hfaithful : Faithful σ) (hok : Orderly σ (.remove i))
    (hstep : step opts σ (.remove i) = some σ') : SparesOthers σ σ' i := by
  intro j hj
  simp only [step] at hstep
  split at hstep <;> cases hstep
  rename_i request error hi
  have hown (k : CallId) (hk : σ.pending.lookup request.sequenceNumber = some k) : k = i :=
    own_of_orderly hi hok k ((hfaithful _).symm.trans hk)
  refine ⟨?_, fun s hs => ?_⟩
  · simp only [goto_channels, State.remove, State.dropSender]
    cases hk : σ.pending.lookup request.sequenceNumber with
    | none => rfl
    | some k => exact Function.update_of_ne (fun hjk => hj (hjk.trans (hown k hk))) _ _
  · simp only [goto_pending, State.remove, DashMap.lookup_erase_ite]
    split_ifs with hs'
    · exact absurd (hown j (hs' ▸ hs)) hj
    · exact hs

/-- A response that arrives while the newest call of its number waits is on its way to the call. -/
theorem due_of_arrive (hfaithful : Faithful σ) {response : DeviceResponse}
    (hok : Orderly σ (.arrive response)) (hstep : step opts σ (.arrive response) = some σ')
    (hnewest : newest response.sequenceNumber σ.log = some i)
    (hwaiting : (σ.calls i).isWaiting = true)
    (hsent : σ.log.any (Event.isSentBy i) = true) :
    Due σ' i (mapDeviceResponseToSequenceResult response) := by
  have hawaiting : awaiting response.sequenceNumber σ.log = some i := by
    simpa [Orderly, orderly, hnewest, hwaiting] using hok
  have hlookup := (hfaithful response.sequenceNumber).trans hawaiting
  simp only [step] at hstep
  split at hstep <;> cases hstep
  refine .inr ⟨hwaiting, .inr ⟨?_, ?_⟩⟩
  · simp only [State.take, hlookup]
  · simpa [State.take, answersSent, Event.isArrived, Event.isSentBy] using hsent

/-- In a run without the three races, a call that cleans up spares every other call, and a response
that arrives while the newest call of its number waits is what that call returns. -/
theorem newest_call_is_answered (hreach : Reachable opts Orderly σ) :
    (∀ i σ', Orderly σ (.remove i) → step opts σ (.remove i) = some σ' → SparesOthers σ σ' i) ∧
    (∀ response σ', Orderly σ (.arrive response) → step opts σ (.arrive response) = some σ' →
      ∀ i, newest response.sequenceNumber σ.log = some i → (σ.calls i).isWaiting = true →
        ∀ σ'', Runs.Reach (step opts) Orderly σ' σ'' →
          Returns opts σ'' i (mapDeviceResponseToSequenceResult response)) := by
  have hlocated := located_of_reachable hreach
  have hfaithful := faithful_of_reachable hreach
  refine ⟨fun i σ' hok hstep => sparesOthers_of_remove hfaithful hok hstep, ?_⟩
  intro response σ' hok hstep i hnewest hwaiting σ'' hlater
  have hdue := due_of_arrive hfaithful hok hstep hnewest hwaiting
    (sent_of_waiting hreach i hwaiting)
  obtain ⟨hdue', hlocated'⟩ := due_of_reach hdue (hlocated.step hstep) hlater
  exact hdue'.returnsOnly hlocated'

end Answered

/-- A controller that talks to one device. -/
def station : Options := ⟨"ctrl-1", "tok-1", "dev-1", 0⟩

/-- A response of the station to the number seven. -/
def pong : DeviceResponse := ⟨"dev-1", 7, [42], 0⟩

/-- Two calls with different numbers; the first of them times out. -/
def timedOut : List Action :=
  [.call 0 ⟨"ping", 7, [1]⟩, .insert 0, .send 0 true, .call 1 ⟨"ping", 8, [2]⟩, .insert 1,
    .send 1 true, .timeout 0]

/-- A call with the number of the first one. -/
def secondCall : List Action := [.call 2 ⟨"ping", 7, [3]⟩, .insert 2, .send 2 true]

/-- A call that has timed out cleans up without disturbing one of another number, and a second call
of its own number is answered by the response that comes then. -/
theorem second_call_is_answered :
    ∃ σ σ₀ σ₁ σ', Reachable station Orderly σ ∧ step station σ (.remove 0) = some σ₀ ∧
      SparesOthers σ σ₀ 0 ∧ σ.pending.lookup 8 = some 1 ∧
      Runs.execute (step station) σ₀ secondCall = some σ₁ ∧ newest 7 σ₁.log = some 2 ∧
      step station σ₁ (.arrive pong) = some σ' ∧ Returns station σ' 2 (.ok [42]) := by
  have hreach : Reachable station Orderly _ :=
    Runs.Reach.of_executeWhen (fun _ _ _ h => h) timedOut .start rfl
  have hreach' : Reachable station Orderly _ :=
    Runs.Reach.of_executeWhen (fun _ _ _ h => h) (timedOut ++ .remove 0 :: secondCall) .start rfl
  exact ⟨_, _, _, _, hreach, rfl, (newest_call_is_answered hreach).1 0 _ rfl rfl, rfl, rfl, rfl,
    rfl, (newest_call_is_answered hreach').2 pong _ rfl rfl 2 rfl rfl _ .start⟩

/-- The call that a second call of the same number has replaced removes the entry of the second one
when it wakes up, and the response that comes then is not returned. -/
theorem replaced_call_removes_newer_entry :
    ∃ σ σ' σ'' τ, Reachable station (fun _ _ => True) σ ∧
      step station σ (.remove 0) = some σ' ∧ ¬ SparesOthers σ σ' 0 ∧
      step station σ' (.arrive pong) = some σ'' ∧ newest 7 σ'.log = some 1 ∧
      (σ'.calls 1).isWaiting = true ∧
      Runs.Reach (step station) (fun _ _ => True) σ'' τ ∧ ¬ Returns station τ 1 (.ok [42]) := by
  have hreach : Reachable station (fun _ _ => True) _ :=
    Runs.Reach.of_execute (fun _ _ => trivial)
      [.call 0 ⟨"ping", 7, [1]⟩, .insert 0, .send 0 true, .call 1 ⟨"ping", 7, [2]⟩, .insert 1,
        .dropPrevious 1, .send 1 true, .receive 0] .start rfl
  refine ⟨_, _, _, _, hreach, rfl, fun hspares => ?_, rfl, rfl, rfl,
    Runs.Reach.of_execute (fun _ _ => trivial) [.receive 1, .remove 1] .start rfl,
    fun hreturns => ?_⟩
  · have hchannel := (hspares 1 (by decide)).1
    cases hchannel
  · have hresult := hreturns.1 (.error .streamClosed) rfl
    cases hresult

end GrpcRelay.ControllerSdk
