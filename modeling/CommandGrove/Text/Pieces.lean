/-!
# Pieces

## What is here

* `splitOn sep s` — the pieces of a text between the occurrences of a character.
* `joinWith sep parts` — the parts in order with `sep` between neighbours.
* `mem_of_mem_splitOn` — what the pieces are made of; `joinWith_splitOn` — joining them gives the
  text back; `splitOn_joinWith` — dividing what was joined gives the pieces back.
* `mem_joinWith_iff` — what joining makes is made of.
-/

set_option autoImplicit false
namespace CommandGrove
namespace Text

/-! ## Dividing and joining -/

/-- The pieces between the occurrences of `sep`; there is always one. -/
def splitOn (sep : Char) : List Char → List (List Char)
  | [] => [[]]
  | c :: rest =>
    match splitOn sep rest with
    | [] => [[c]]
    | piece :: pieces => if c = sep then [] :: piece :: pieces else (c :: piece) :: pieces

/-- The parts in order, with `sep` between neighbours. -/
def joinWith (sep : List Char) : List (List Char) → List Char
  | [] => []
  | [part] => part
  | part :: rest => part ++ sep ++ joinWith sep rest

/-! ## How they fit together -/

theorem splitOn_ne_nil (sep : Char) (s : List Char) : splitOn sep s ≠ [] := by
  cases s with
  | nil => simp [splitOn]
  | cons c rest =>
    rw [splitOn]
    split
    · simp
    · split <;> simp

/-- The pieces have the characters of the text, apart from the one between them. -/
theorem mem_of_mem_splitOn {sep : Char} {s piece : List Char} (hpiece : piece ∈ splitOn sep s)
    {c : Char} (hc : c ∈ piece) : c ∈ s ∧ c ≠ sep := by
  induction s generalizing piece with
  | nil =>
    rw [List.mem_singleton.1 hpiece] at hc
    exact nomatch hc
  | cons first rest ih =>
    rw [splitOn] at hpiece
    split at hpiece
    · next h => exact absurd h (splitOn_ne_nil sep rest)
    · next head others h =>
      rw [h] at ih
      split at hpiece
      · rcases List.mem_cons.1 hpiece with rfl | hpiece
        · exact nomatch hc
        · exact (ih hpiece hc).imp_left (List.mem_cons_of_mem _)
      · next hne =>
        rcases List.mem_cons.1 hpiece with rfl | hpiece
        · rcases List.mem_cons.1 hc with rfl | hc
          · exact ⟨List.mem_cons_self, hne⟩
          · exact (ih List.mem_cons_self hc).imp_left (List.mem_cons_of_mem _)
        · exact (ih (List.mem_cons_of_mem _ hpiece) hc).imp_left (List.mem_cons_of_mem _)

/-- **Joining the pieces gives the text back.** -/
theorem joinWith_splitOn (sep : Char) (s : List Char) : joinWith [sep] (splitOn sep s) = s := by
  induction s with
  | nil => rfl
  | cons c rest ih =>
    rw [splitOn]
    split
    · next h => exact absurd h (splitOn_ne_nil sep rest)
    · next piece pieces h =>
      rw [h] at ih
      split
      · next hc => simp [joinWith, ih, hc]
      · cases pieces with
        | nil => simpa [joinWith] using ih
        | cons second others => simpa [joinWith] using ih

/-- What was joined has the characters of its parts, apart from those between them. -/
theorem mem_joinWith_iff {sep : List Char} {c : Char} (hc : c ∉ sep) {parts : List (List Char)} :
    c ∈ joinWith sep parts ↔ ∃ part ∈ parts, c ∈ part := by
  induction parts with
  | nil => simp [joinWith]
  | cons part rest ih =>
    cases rest with
    | nil => simp [joinWith]
    | cons next others =>
      rw [joinWith, List.mem_append, List.mem_append, ih]
      · simp [hc]
      · exact List.cons_ne_nil next others

/-- The pieces have all characters of the text but the one between them. -/
theorem exists_mem_splitOn_iff {sep c : Char} (hc : c ≠ sep) {s : List Char} :
    (∃ piece ∈ splitOn sep s, c ∈ piece) ↔ c ∈ s := by
  conv => rhs; rw [← joinWith_splitOn sep s]
  exact (mem_joinWith_iff fun hmem => hc (List.mem_singleton.1 hmem)).symm

/-- A text without the character in it is one piece. -/
theorem splitOn_of_notMem {sep : Char} {s : List Char} (h : sep ∉ s) : splitOn sep s = [s] := by
  induction s with
  | nil => rfl
  | cons c rest ih =>
    rw [List.mem_cons, not_or] at h
    rw [splitOn, ih h.2]
    exact if_neg (Ne.symm h.1)

/-- A text is divided where the character stands. -/
theorem splitOn_append_cons (sep : Char) (s t : List Char) :
    splitOn sep (s ++ sep :: t) = splitOn sep s ++ splitOn sep t := by
  induction s with
  | nil =>
    cases h : splitOn sep t with
    | nil => exact absurd h (splitOn_ne_nil sep t)
    | cons piece pieces => simp [splitOn, h]
  | cons c rest ih =>
    rw [List.cons_append, splitOn, ih, splitOn]
    cases h : splitOn sep rest with
    | nil => exact absurd h (splitOn_ne_nil sep rest)
    | cons piece pieces =>
      simp only [List.cons_append]
      split <;> rfl

/-- What was joined is divided between its parts, and where they are divided themselves. -/
theorem splitOn_joinWith_eq_flatMap {sep : Char} {parts : List (List Char)} (hne : parts ≠ []) :
    splitOn sep (joinWith [sep] parts) = parts.flatMap (splitOn sep) := by
  induction parts with
  | nil => exact absurd rfl hne
  | cons part rest ih =>
    cases rest with
    | nil => simp [joinWith]
    | cons next others =>
      rw [joinWith, List.append_assoc, List.singleton_append, splitOn_append_cons,
        ih (List.cons_ne_nil next others)]
      · rfl
      · exact List.cons_ne_nil next others

/-- **Dividing what was joined gives the pieces back.** -/
theorem splitOn_joinWith {sep : Char} {pieces : List (List Char)} (hne : pieces ≠ [])
    (h : ∀ piece ∈ pieces, sep ∉ piece) : splitOn sep (joinWith [sep] pieces) = pieces := by
  rw [splitOn_joinWith_eq_flatMap hne]
  induction pieces with
  | nil => rfl
  | cons piece rest ih =>
    rw [List.flatMap_cons, splitOn_of_notMem (h piece List.mem_cons_self), List.singleton_append]
    by_cases hrest : rest = []
    · rw [hrest]
      rfl
    · rw [ih hrest fun p hp => h p (List.mem_cons_of_mem _ hp)]

end Text
end CommandGrove
