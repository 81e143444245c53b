import GrpcRelay.Splitting

/-!
# The broker address

`parse_host_port` cuts the scheme, the path and the user information off an address and splits what
is left into host and port.  It finds the host and the port of every address that is put together
from parts which do not contain the separators that it looks for (`parseHostPort_address`).
-/

namespace GrpcRelay.Mqtt

/-- An address, put together from its parts. -/
def address (scheme userinfo : Option String) (host : String) (port : ℕ) (path : Option String) :
    String :=
  (scheme.map (· ++ "://")).getD "" ++ (userinfo.map (· ++ "@")).getD "" ++
    (host ++ ":" ++ toString port) ++ (path.map ("/" ++ ·)).getD ""

/-- The parts around the host.  Without a scheme there is no path. -/
structure Surroundings (scheme userinfo path : Option String) : Prop where
  separator : ∀ s, scheme = some s → s ≠ "" ∧ ¬ "://".toList <:+: s.toList
  slash : ∀ u, userinfo = some u → '/' ∉ u.toList
  bare : scheme = none → path = none

/-- A host name or an IPv4 address. -/
structure PlainHost (host : String) : Prop where
  nonempty : host ≠ ""
  colon : ':' ∉ host.toList
  slash : '/' ∉ host.toList
  at_sign : '@' ∉ host.toList
  bracket : host.toList.head? ≠ some '['

/-- What may stand in brackets. -/
structure BracketedHost (host : String) : Prop where
  nonempty : host ≠ ""
  bracket : ']' ∉ host.toList
  slash : '/' ∉ host.toList
  at_sign : '@' ∉ host.toList

variable {scheme userinfo path : Option String} {host : String} {port : ℕ} {cs : List Char}

/-! ## The port -/

/-- The digits of the port. -/
def digits (port : ℕ) : List Char := (toString port).toList

theorem digits_eq (port : ℕ) : digits port = Nat.toDigits 10 port := Nat.toList_repr

theorem isDigit_of_mem_digits {c : Char} (h : c ∈ digits port) : c.isDigit = true := by
  rw [digits_eq] at h
  exact Nat.isDigit_of_mem_toDigits (by decide) (by decide) h

theorem notMem_digits {c : Char} (h : c.isDigit = false) : c ∉ digits port := by
  intro mem
  rw [isDigit_of_mem_digits mem] at h
  cases h

/-- A number without a sign. -/
theorem parseU16_of_unsigned (unsigned : '+' ∉ cs) : parseU16 cs =
    if cs ≠ [] ∧ cs.all Char.isDigit then
      if cs.foldl (fun n c => 10 * n + (c.toNat - '0'.toNat)) 0 < 2 ^ 16 then
        some (cs.foldl (fun n c => 10 * n + (c.toNat - '0'.toNat)) 0)
      else none
    else none := by
  unfold parseU16
  split
  · exact absurd List.mem_cons_self unsigned
  · rfl

theorem parsePort_digits (small : port < 2 ^ 16) : parsePort (digits port) = .ok port := by
  have value : (digits port).foldl (fun n c => 10 * n + (c.toNat - '0'.toNat)) 0 = port := by
    rw [digits_eq]
    exact Nat.ofDigitChars_eq_foldl.symm.trans Nat.ofDigitChars_ten_toDigits
  have digit : digits port ≠ [] ∧ (digits port).all Char.isDigit = true := by
    refine ⟨?_, List.all_eq_true.2 fun _ => isDigit_of_mem_digits⟩
    rw [digits_eq]
    exact Nat.toDigits_ne_nil
  rw [parsePort, parseU16_of_unsigned (notMem_digits rfl), if_pos digit, value, if_pos small]

/-! ## The authority -/

/-- What is left of an address between the scheme and the path, after the user information. -/
def authority (brokerAddress : String) : List Char :=
  afterLast '@' ((((splitOnce "://".toList brokerAddress.toList).map Prod.snd).getD
    brokerAddress.toList).takeWhile fun c => c != '/')

theorem toList_address (scheme userinfo : Option String) (host : String) (port : ℕ)
    (path : Option String) : (address scheme userinfo host port path).toList =
      (scheme.map (·.toList ++ "://".toList)).getD [] ++
        ((userinfo.map (·.toList ++ ['@'])).getD [] ++ (host.toList ++ ':' :: digits port) ++
          (path.map ('/' :: ·.toList)).getD []) := by
  unfold address digits
  cases scheme <;> cases userinfo <;> cases path <;> simp [String.toList_append]

/-- The scheme, the path and the user information are cut off. -/
theorem authority_address (S : Surroundings scheme userinfo path) (slash : '/' ∉ host.toList)
    (at_sign : '@' ∉ host.toList) :
    authority (address scheme userinfo host port path) = host.toList ++ ':' :: digits port := by
  set tail := host.toList ++ ':' :: digits port with tail_eq
  have slash : '/' ∉ tail := by simp [tail_eq, slash, notMem_digits]
  have at_sign : '@' ∉ tail := by simp [tail_eq, at_sign, notMem_digits]
  set user := (userinfo.map (·.toList ++ ['@'])).getD [] with user_eq
  have clean : '/' ∉ user ++ tail := by
    cases userinfo with
    | none => simpa [user_eq] using slash
    | some u => simpa [user_eq, slash] using S.slash u rfl
  have last : afterLast '@' (user ++ tail) = tail := by
    cases userinfo with
    | none => exact afterLast_of_notMem at_sign
    | some u =>
      have whole : user ++ tail = u.toList ++ '@' :: tail := by simp [user_eq]
      rw [whole, afterLast_append_cons at_sign]
  unfold authority
  rw [toList_address, ← user_eq, ← tail_eq]
  cases scheme with
  | none =>
    obtain rfl := S.bare rfl
    have whole : splitOnce "://".toList (user ++ tail) = none := by
      refine splitOnce_eq_none fun found => clean ?_
      exact found.subset (by decide)
    simp only [Option.map_none, Option.getD_none, List.nil_append, List.append_nil]
    rw [whole, Option.map_none, Option.getD_none, takeWhile_of_notMem clean, last]
  | some s =>
    have cut : splitOnce "://".toList (s.toList ++ "://".toList ++
        (user ++ tail ++ (path.map ('/' :: ·.toList)).getD [])) = some (s.toList, _) :=
      splitOnce_of_unbordered (by decide) (by decide) (S.separator s rfl).2
    rw [Option.map_some, Option.getD_some, cut, Option.map_some, Option.getD_some]
    cases path with
    | none =>
      rw [Option.map_none, Option.getD_none, List.append_nil, takeWhile_of_notMem clean, last]
    | some rest => rw [Option.map_some, Option.getD_some, takeWhile_append_cons clean, last]

/-! ## Host and port -/

theorem parseHostPort_of_plain {brokerAddress : String} (P : PlainHost host)
    (small : port < 2 ^ 16) (found : authority brokerAddress = host.toList ++ ':' :: digits port) :
    parseHostPort brokerAddress = .ok (host, port) := by
  have nonempty : host.toList ≠ [] := fun h => P.nonempty (String.toList_eq_nil_iff.1 h)
  unfold authority at found
  unfold parseHostPort
  dsimp only
  rw [found]
  split
  · rename_i eq
    exact absurd eq (by simp)
  · rename_i rest eq
    -- The host would begin with a bracket.
    have first := congrArg List.head? eq
    rw [List.head?_append_of_ne_nil _ nonempty] at first
    exact absurd first P.bracket
  · rw [rsplitOnce_append_cons (notMem_digits rfl)]
    dsimp only
    rw [if_neg nonempty, if_neg P.colon, parsePort_digits small, Except.map,
      String.ofList_toList]

theorem parseHostPort_of_bracketed {brokerAddress : String} (P : BracketedHost host)
    (small : port < 2 ^ 16)
    (found : authority brokerAddress = ("[" ++ host ++ "]").toList ++ ':' :: digits port) :
    parseHostPort brokerAddress = .ok (host, port) := by
  have whole : authority brokerAddress = '[' :: (host.toList ++ [']'] ++ ':' :: digits port) := by
    rw [found]
    simp [String.toList_append]
  unfold authority at whole
  unfold parseHostPort
  dsimp only
  rw [whole]
  split
  · rename_i eq
    cases eq
  · rename_i rest eq
    obtain rfl := (List.cons.inj eq).2
    rw [splitOnce_of_notMem P.bracket]
    dsimp only
    split
    · rename_i digits' eq
      obtain rfl := (List.cons.inj eq).2
      rw [parsePort_digits small, Except.map, String.ofList_toList]
    · rename_i other
      exact absurd rfl (other _)
  · rename_i other
    exact absurd rfl (other _)

/-- The host and the port of an address, whatever stands around them. -/
theorem parseHostPort_address (S : Surroundings scheme userinfo path) (small : port < 2 ^ 16) :
    (PlainHost host →
      parseHostPort (address scheme userinfo host port path) = .ok (host, port)) ∧
    (BracketedHost host →
      parseHostPort (address scheme userinfo ("[" ++ host ++ "]") port path) =
        .ok (host, port)) := by
  refine ⟨fun P => ?_, fun P => ?_⟩
  · exact parseHostPort_of_plain P small (authority_address S P.slash P.at_sign)
  · refine parseHostPort_of_bracketed P small (authority_address S ?_ ?_)
    · simp [String.toList_append, P.slash]
    · simp [String.toList_append, P.at_sign]

/-- The user information has a colon and an at sign, the path has all separators. -/
theorem parseHostPort_ipv6 :
    address (some "mqtt") (some "u:p@ss") "[::1]" 1883 (some "a://b@c:1/d") =
      "mqtt://u:p@ss@[::1]:1883/a://b@c:1/d" ∧
    parseHostPort "mqtt://u:p@ss@[::1]:1883/a://b@c:1/d" = .ok ("::1", 1883) := by
  have S : Surroundings (some "mqtt") (some "u:p@ss") (some "a://b@c:1/d") := by
    refine ⟨?_, ?_, ?_⟩
    · rintro _ ⟨⟩
      decide
    · rintro _ ⟨⟩
      decide
    · rintro ⟨⟩
  have P : BracketedHost "::1" := ⟨by decide, by decide, by decide, by decide⟩
  have whole : address (some "mqtt") (some "u:p@ss") ("[" ++ "::1" ++ "]") 1883
      (some "a://b@c:1/d") = "mqtt://u:p@ss@[::1]:1883/a://b@c:1/d" := by decide +kernel
  refine ⟨whole, ?_⟩
  rw [← whole]
  exact (parseHostPort_address S (by decide)).2 P

end GrpcRelay.Mqtt
