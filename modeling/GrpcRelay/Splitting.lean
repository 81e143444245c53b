import GrpcRelay.Mqtt
import Mathlib.Data.List.Infix
import Mathlib.Data.List.TakeWhile

/-!
# Splits of strings

What `split_once`, `rsplit_once` and `rsplit(sep).next()` find.  A split from the left finds the
first separator: a part without the separator's first character cannot contain it, and neither can
a part without the separator if no end of the separator is a beginning of it (`Unbordered`).
-/

namespace GrpcRelay.Mqtt

variable {sep pre post cs : List Char} {c : Char}

/-! ## From the left -/

theorem splitOnce_cons (sep : List Char) (c : Char) (cs : List Char) :
    splitOnce sep (c :: cs) = if sep <+: c :: cs then some ([], (c :: cs).drop sep.length)
      else (splitOnce sep cs).map fun r => (c :: r.1, r.2) := by
  simp only [splitOnce, List.isPrefixOf_iff_prefix]

/-- The parts and the separator make up the string. -/
theorem splitOnce_eq_some (h : splitOnce sep cs = some (pre, post)) : cs = pre ++ sep ++ post := by
  induction cs generalizing pre with
  | nil => cases h
  | cons c cs ih =>
    rw [splitOnce_cons] at h
    split_ifs at h with found
    · cases h
      exact (List.prefix_iff_eq_append.1 found).symm
    · obtain ⟨⟨pre', post'⟩, split, eq⟩ := Option.map_eq_some_iff.1 h
      cases eq
      rw [ih split]
      rfl

/-- Without a separator there is no split. -/
theorem splitOnce_eq_none (absent : ¬ sep <:+: cs) : splitOnce sep cs = none := by
  induction cs with
  | nil => rfl
  | cons c cs ih =>
    rw [splitOnce_cons, if_neg fun found => absent found.isInfix,
      ih fun found => absent (found.trans (List.suffix_cons c cs).isInfix)]
    rfl

/-- A string that is not split has no separator. -/
theorem not_infix_of_splitOnce (nonempty : sep ≠ []) (h : splitOnce sep cs = none) :
    ¬ sep <:+: cs := by
  induction cs with
  | nil => simpa using nonempty
  | cons c cs ih =>
    rw [splitOnce_cons] at h
    split_ifs at h with found
    rw [List.infix_cons_iff]
    rintro (first | later)
    · exact found first
    · exact ih (Option.map_eq_none_iff.1 h) later

/-- The split is at the first separator. -/
theorem splitOnce_of_first
    (first : ∀ n < pre.length, ¬ sep <+: (pre ++ sep ++ post).drop n) (nonempty : sep ≠ []) :
    splitOnce sep (pre ++ sep ++ post) = some (pre, post) := by
  induction pre with
  | nil =>
    obtain ⟨c, rest, rfl⟩ := List.exists_cons_of_ne_nil nonempty
    rw [List.nil_append, List.cons_append, splitOnce_cons, ← List.cons_append,
      if_pos (List.prefix_append _ _), List.drop_left]
  | cons c pre ih =>
    have later : ∀ n < pre.length, ¬ sep <+: (pre ++ sep ++ post).drop n :=
      fun n hn => first (n + 1) (Nat.succ_lt_succ hn)
    have here : ¬ sep <+: c :: (pre ++ sep ++ post) := first 0 (Nat.zero_lt_succ _)
    rw [List.cons_append, List.cons_append, splitOnce_cons, if_neg here, ih later]
    rfl

/-- A part that lacks the first character of the separator. -/
theorem splitOnce_of_notMem (absent : c ∉ pre) :
    splitOnce (c :: sep) (pre ++ c :: sep ++ post) = some (pre, post) := by
  refine splitOnce_of_first (fun n hn found => absent ?_) (List.cons_ne_nil _ _)
  rw [List.append_assoc, List.drop_append_of_le_length hn.le,
    List.drop_eq_getElem_cons hn, List.cons_append, List.cons_prefix_cons] at found
  rw [found.1]
  exact List.getElem_mem hn

/-- No end of the separator but the whole is a beginning of it. -/
def Unbordered (sep : List Char) : Prop :=
  ∀ k < sep.length, 0 < k → ¬ sep.drop k <+: sep

instance : Decidable (Unbordered sep) :=
  inferInstanceAs (Decidable (∀ k < sep.length, 0 < k → ¬ sep.drop k <+: sep))

/-- A part that lacks the separator. -/
theorem splitOnce_of_unbordered (unbordered : Unbordered sep) (nonempty : sep ≠ [])
    (absent : ¬ sep <:+: pre) : splitOnce sep (pre ++ sep ++ post) = some (pre, post) := by
  refine splitOnce_of_first (fun n hn found => ?_) nonempty
  rw [List.append_assoc, List.drop_append_of_le_length hn.le] at found
  rcases Nat.lt_or_ge (pre.drop n).length sep.length with short | long
  · -- The separator found ends in the one that follows.
    have overlap := found.drop (pre.drop n).length
    rw [List.drop_left] at overlap
    refine unbordered _ short ?_ ?_
    · rw [List.length_drop]
      omega
    · refine List.prefix_of_prefix_length_le overlap (List.prefix_append sep post) ?_
      rw [List.length_drop]
      omega
  · have inside : sep <+: pre.drop n :=
      List.prefix_of_prefix_length_le found (List.prefix_append _ _) long
    exact absent (inside.isInfix.trans (List.drop_suffix n pre).isInfix)

/-! ## Up to a character, and from the right -/

theorem bne_of_notMem (absent : c ∉ cs) : ∀ x ∈ cs, (x != c) = true := by
  intro x mem
  simp only [bne_iff_ne]
  rintro rfl
  exact absent mem

theorem takeWhile_of_notMem (absent : c ∉ cs) : (cs.takeWhile fun x => x != c) = cs :=
  List.takeWhile_eq_self_iff.2 (bne_of_notMem absent)

theorem takeWhile_append_cons (absent : c ∉ pre) :
    ((pre ++ c :: post).takeWhile fun x => x != c) = pre := by
  rw [List.takeWhile_append_of_pos (bne_of_notMem absent), List.takeWhile_cons_of_neg (by simp),
    List.append_nil]

theorem afterLast_of_notMem (absent : c ∉ cs) : afterLast c cs = cs := by
  rw [afterLast, takeWhile_of_notMem (by simpa using absent), List.reverse_reverse]

theorem afterLast_append_cons (absent : c ∉ post) : afterLast c (pre ++ c :: post) = post := by
  have reversed : (pre ++ c :: post).reverse = post.reverse ++ c :: pre.reverse := by simp
  rw [afterLast, reversed, takeWhile_append_cons (by simpa using absent), List.reverse_reverse]

theorem rsplitOnce_append_cons (absent : c ∉ post) :
    rsplitOnce c (pre ++ c :: post) = some (pre, post) := by
  have reversed : (pre ++ c :: post).reverse = post.reverse ++ c :: pre.reverse := by simp
  have dropped : ((pre ++ c :: post).reverse.dropWhile fun x => x != c) = c :: pre.reverse := by
    rw [reversed, List.dropWhile_append_of_pos (bne_of_notMem (by simpa using absent)),
      List.dropWhile_cons_of_neg (by simp)]
  rw [rsplitOnce, if_pos (by simp), dropped, afterLast_append_cons absent, List.drop_one,
    List.tail_cons, List.reverse_reverse]

end GrpcRelay.Mqtt
