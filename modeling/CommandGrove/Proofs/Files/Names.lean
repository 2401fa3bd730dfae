import CommandGrove.FileName
import CommandGrove.Proofs.Text.Bytes

/-!
# Names and their bytes

The bytes of a name can be told from what is kept of it, so names that are kept alike are the same
bytes.  What is shown for a name is the name itself if it is a text, and has no mark in any case.

## What is here

* `bytes_ofBytes`, `isText_ofBytes_iff` — nothing of a name is lost, and it is a text if its bytes
  are those of one.
* `ofBytes_of_charAt?`, `shown_ofBytes_of_charAt?`, `shown_ofBytes_of_stray` — what is kept and what
  is shown for the bytes at the front of a name.
* `bytes_of_isText`, `shown_eq_self_iff`, `mark_notMem_shown` — names that are texts, and others.
-/

set_option autoImplicit false
namespace CommandGrove
namespace FileName

/-! ## Marks -/

theorem isText_iff {name : List Char} : isText name = true ↔ mark ∉ name := by
  simp [isText]

theorem bytesFrom_mark (marked : Bool) (rest : List Char) :
    bytesFrom marked (mark :: rest) = bytesFrom (!marked) rest := if_pos rfl

theorem shownFrom_mark (marked : Bool) (rest : List Char) :
    shownFrom marked (mark :: rest) =
      (if marked then [] else [replacement]) ++ shownFrom (!marked) rest := if_pos rfl

theorem bytesFrom_cons {c : Char} (h : c ≠ mark) (marked : Bool) (rest : List Char) :
    bytesFrom marked (c :: rest) =
      (if marked then [UInt8.ofNat c.toNat] else String.utf8EncodeChar c) ++
        bytesFrom marked rest :=
  if_neg h

theorem shownFrom_cons {c : Char} (h : c ≠ mark) (marked : Bool) (rest : List Char) :
    shownFrom marked (c :: rest) = (if marked then [] else [c]) ++ shownFrom marked rest :=
  if_neg h

/-! ## Texts -/

/-- The bytes of a text are the ones that its characters have. -/
theorem bytes_of_isText {name : List Char} (h : isText name = true) :
    bytes name = name.flatMap String.utf8EncodeChar := by
  rw [isText_iff] at h
  induction name with
  | nil => rfl
  | cons c rest ih =>
    obtain ⟨hc, hrest⟩ := List.ne_and_not_mem_of_not_mem_cons h
    rw [bytes, bytesFrom_cons (Ne.symm hc), List.flatMap_cons, ← ih hrest]
    rfl

/-- **A text is shown as it is.** -/
theorem shown_of_isText {name : List Char} (h : isText name = true) : shown name = name := by
  rw [isText_iff] at h
  induction name with
  | nil => rfl
  | cons c rest ih =>
    obtain ⟨hc, hrest⟩ := List.ne_and_not_mem_of_not_mem_cons h
    rw [shown, shownFrom_cons (Ne.symm hc)]
    exact congrArg (c :: ·) (ih hrest)

theorem mark_notMem_shownFrom (marked : Bool) (name : List Char) :
    mark ∉ shownFrom marked name := by
  induction name generalizing marked with
  | nil => exact List.not_mem_nil
  | cons c rest ih =>
    by_cases hc : c = mark
    · rw [hc, shownFrom_mark, List.mem_append, not_or]
      refine ⟨?_, ih _⟩
      cases marked <;> decide
    · rw [shownFrom_cons hc, List.mem_append, not_or]
      refine ⟨?_, ih _⟩
      cases marked with
      | false => simpa using Ne.symm hc
      | true => exact List.not_mem_nil

/-- What is shown is a text. -/
theorem mark_notMem_shown (name : List Char) : mark ∉ shown name := mark_notMem_shownFrom false name

/-- A name is shown as it is only if it is a text. -/
theorem shown_eq_self_iff {name : List Char} : shown name = name ↔ isText name = true :=
  ⟨fun h => isText_iff.2 (h ▸ mark_notMem_shown name), shown_of_isText⟩

/-- What is no text is shown as such. -/
theorem replacement_mem_shown {name : List Char} (h : mark ∈ name) : replacement ∈ shown name := by
  induction name with
  | nil => exact absurd h List.not_mem_nil
  | cons c rest ih =>
    by_cases hc : c = mark
    · rw [hc, shown, shownFrom_mark]
      exact List.mem_append_left _ (List.mem_singleton_self _)
    · rw [shown, shownFrom_cons hc]
      exact List.mem_append_right _ (ih ((List.mem_cons.1 h).resolve_left (Ne.symm hc)))

/-- Only a text itself is shown as this text, if nothing in it stands for what is no text. -/
theorem shown_eq_iff {name text : List Char} (hmark : mark ∉ text) (h : replacement ∉ text) :
    shown name = text ↔ name = text := by
  constructor
  · rintro rfl
    exact (shown_of_isText (isText_iff.2 fun hmem => h (replacement_mem_shown hmem))).symm
  · rintro rfl
    exact shown_of_isText (isText_iff.2 hmark)

/-- The first character of a name is shown, if it does not stand for what is no text. -/
theorem head?_shown {name : List Char} {c : Char} (hmark : c ≠ mark)
    (hreplacement : c ≠ replacement) :
    (shown name).head? = some c ↔ name.head? = some c := by
  cases name with
  | nil => rfl
  | cons d rest =>
    by_cases hd : d = mark
    · rw [hd, shown, shownFrom_mark]
      simp [Ne.symm hmark, Ne.symm hreplacement]
    · rw [shown, shownFrom_cons hd]
      rfl

/-! ## The front of some bytes -/

/-- A character at the front takes the bytes that it is written with. -/
theorem eq_append_of_charAt? {bytes : List UInt8} {c : Char} (h : charAt? bytes = some c) :
    bytes = String.utf8EncodeChar c ++ bytes.drop c.utf8Size := by
  obtain ⟨l, hl⟩ := ByteArray.exists_of_utf8DecodeChar?_eq_some h
  have hbytes := congrArg (fun b : ByteArray => b.data.toList) hl
  simp only [List.toList_data_toByteArray, ByteArray.data_append, Array.toList_append] at hbytes
  rw [hbytes, ← String.length_utf8EncodeChar, List.drop_left]

theorem charAt?_append (c : Char) (rest : List UInt8) :
    charAt? (String.utf8EncodeChar c ++ rest) = some c := by
  rw [charAt?, List.toByteArray_append]
  exact ByteArray.utf8DecodeChar?_utf8EncodeChar_append

theorem ofBytes_of_charAt? {bytes : List UInt8} {c : Char} (h : charAt? bytes = some c) :
    ofBytes bytes = c :: ofBytes (bytes.drop c.utf8Size) := by
  cases bytes with
  | nil => exact nomatch h
  | cons first rest => rw [ofBytes, h]

theorem ofBytes_of_stray {bytes : List UInt8} (hne : bytes ≠ []) (h : charAt? bytes = none) :
    ofBytes bytes = stray (bytes.take (strayLength bytes)) ++
      ofBytes (bytes.drop (strayLength bytes)) := by
  cases bytes with
  | nil => exact absurd rfl hne
  | cons first rest => rw [ofBytes, h]

theorem ne_mark_of_charAt? {bytes : List UInt8} (hzero : 0 ∉ bytes) {c : Char}
    (h : charAt? bytes = some c) : c ≠ mark := by
  rintro rfl
  rw [eq_append_of_charAt? h] at hzero
  exact hzero (List.mem_append_left _ (by decide))

/-- The character that a byte is kept as. -/
theorem toNat_ofNat_byte (b : UInt8) : (Char.ofNat b.toNat).toNat = b.toNat := by
  have hvalid : b.toNat.isValidChar := Or.inl (Nat.lt_trans b.toNat_lt (by decide))
  rw [Char.ofNat, dif_pos hvalid]
  rfl

theorem ofNat_byte_ne_mark {b : UInt8} (h : b ≠ 0) : Char.ofNat b.toNat ≠ mark := by
  intro heq
  have hzero := congrArg Char.toNat heq
  rw [toNat_ofNat_byte] at hzero
  exact h (UInt8.toNat_inj.1 hzero)

section Stray

variable {bs : List UInt8} (h : 0 ∉ bs) (rest : List Char)

include h

theorem bytesFrom_stray : bytesFrom false (stray bs ++ rest) = bs ++ bytesFrom false rest := by
  suffices hinner : bytesFrom true (bs.map (fun b => Char.ofNat b.toNat) ++ mark :: rest) =
      bs ++ bytesFrom false rest by
    rw [stray, List.append_assoc, List.cons_append, bytesFrom_mark]
    exact hinner
  induction bs with
  | nil => exact bytesFrom_mark true rest
  | cons b others ih =>
    obtain ⟨hb, hothers⟩ := List.ne_and_not_mem_of_not_mem_cons h
    rw [List.map_cons, List.cons_append, bytesFrom_cons (ofNat_byte_ne_mark (Ne.symm hb)),
      ih hothers, toNat_ofNat_byte]
    simp

theorem shownFrom_stray :
    shownFrom false (stray bs ++ rest) = replacement :: shownFrom false rest := by
  suffices hinner : shownFrom true (bs.map (fun b => Char.ofNat b.toNat) ++ mark :: rest) =
      shownFrom false rest by
    rw [stray, List.append_assoc, List.cons_append, shownFrom_mark]
    exact congrArg (replacement :: ·) hinner
  induction bs with
  | nil => exact shownFrom_mark true rest
  | cons b others ih =>
    obtain ⟨hb, hothers⟩ := List.ne_and_not_mem_of_not_mem_cons h
    rw [List.map_cons, List.cons_append, shownFrom_cons (ofNat_byte_ne_mark (Ne.symm hb))]
    exact ih hothers

end Stray

/-! ## Whole names -/

/-- **Nothing of a name is lost**: its bytes can be told from what is kept. -/
theorem bytes_ofBytes {name : List UInt8} (h : 0 ∉ name) : bytes (ofBytes name) = name := by
  induction hlength : name.length using Nat.strongRecOn generalizing name with
  | _ length ih =>
    subst hlength
    by_cases hne : name = []
    · rw [hne, ofBytes]
      rfl
    · have hpos := List.length_pos_iff.2 hne
      have hdrop (n : Nat) (hn : 0 < n) : bytes (ofBytes (name.drop n)) = name.drop n :=
        ih _ (by rw [List.length_drop]; omega) (fun hmem => h (List.mem_of_mem_drop hmem)) rfl
      cases hc : charAt? name with
      | some c =>
        rw [ofBytes_of_charAt? hc, bytes, bytesFrom_cons (ne_mark_of_charAt? h hc)]
        exact (congrArg (String.utf8EncodeChar c ++ ·) (hdrop _ c.utf8Size_pos)).trans
          (eq_append_of_charAt? hc).symm
      | none =>
        rw [ofBytes_of_stray hne hc, bytes,
          bytesFrom_stray fun hmem => h (List.mem_of_mem_take hmem)]
        exact (congrArg (name.take _ ++ ·) (hdrop _ (strayLength_pos name))).trans
          (List.take_append_drop _ _)

/-- **Names are kept alike only if they are the same bytes.** -/
theorem ofBytes_inj {name name' : List UInt8} (h : 0 ∉ name) (h' : 0 ∉ name') :
    ofBytes name = ofBytes name' ↔ name = name' :=
  ⟨fun heq => by rw [← bytes_ofBytes h, heq, bytes_ofBytes h'], fun heq => heq ▸ rfl⟩

/-- The bytes of a text are kept as the text. -/
theorem ofBytes_bytes (s : String) : ofBytes (Text.bytes s) = s.toList := by
  rw [Text.bytes_eq_flatMap]
  induction s.toList with
  | nil => rw [List.flatMap_nil, ofBytes]
  | cons c rest ih =>
    rw [List.flatMap_cons, ofBytes_of_charAt? (charAt?_append c _),
      ← String.length_utf8EncodeChar, List.drop_left, ih]

/-- **A name is a text** just if its bytes are those of a text. -/
theorem isText_ofBytes_iff {name : List UInt8} (h : 0 ∉ name) :
    isText (ofBytes name) = true ↔ ∃ s : String, name = Text.bytes s := by
  constructor
  · intro htext
    refine ⟨String.ofList (ofBytes name), ?_⟩
    rw [Text.bytes_eq_flatMap, String.toList_ofList, ← bytes_of_isText htext, bytes_ofBytes h]
  · rintro ⟨s, rfl⟩
    rw [ofBytes_bytes, isText_iff]
    intro hmark
    rw [Text.bytes_eq_flatMap] at h
    exact h (List.mem_flatMap.2 ⟨mark, hmark, by decide⟩)

/-- A character at the front of a name is shown. -/
theorem shown_ofBytes_of_charAt? {name : List UInt8} (h : 0 ∉ name) {c : Char}
    (hc : charAt? name = some c) :
    shown (ofBytes name) = c :: shown (ofBytes (name.drop c.utf8Size)) := by
  rw [ofBytes_of_charAt? hc, shown, shownFrom_cons (ne_mark_of_charAt? h hc)]
  rfl

/-- One character is shown for bytes at the front of a name that are no text. -/
theorem shown_ofBytes_of_stray {name : List UInt8} (h : 0 ∉ name) (hne : name ≠ [])
    (hc : charAt? name = none) :
    shown (ofBytes name) = replacement :: shown (ofBytes (name.drop (strayLength name))) := by
  rw [ofBytes_of_stray hne hc]
  exact shownFrom_stray (fun hmem => h (List.mem_of_mem_take hmem)) _

/-- A character that is cut off is shown as one, and so is a byte that begins none. -/
example : shown (ofBytes [0xE2, 0x82, 0x41, 0xC3, 0xA9, 0xFF]) =
    [replacement, 'A', 'é', replacement] := by cbv

end FileName
end CommandGrove
