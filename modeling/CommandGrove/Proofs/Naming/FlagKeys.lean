import CommandGrove.Proofs.Naming.Words
import CommandGrove.Proofs.Plan.Identifiers
import Mathlib.Data.List.Chain

/-!
# Keys of flags

A flag is registered by the token of a field and its value is kept under a key that is made of the
token.  A field whose words each begin with one capital gets its value back: the key joins the words
that the token has divided, and gives each but the first its capital again.  What begins with `no`
is the exception, as `--no-cache` switches off what is kept under `cache`.

## What is here

* `Naming.IsFieldName` — a name whose words each begin with one capital, the first of them with a
  small letter.
* `Naming.joinWords` — the parts of a text between hyphens joined to a name; keys are made so.
* `Naming.joinWords_hyphenate` — joining what was divided gives the name back, but for the capital
  at its front.
* `Naming.optionKey_token_of_not_beginsWithNo`, `Naming.optionKey_token_of_beginsWithNo` — the key
  of the flag for a field.
-/

set_option autoImplicit false
namespace CommandGrove
namespace Naming

open Text

/-! ## Names of fields -/

/-- A letter or a digit of ASCII, an underscore or a dollar sign. -/
def isFieldChar (c : Char) : Bool := isPlain c || c == '_' || c == '$'

/-- A capital stands only directly behind a small letter or a digit. -/
def CapitalsBeginWords (name : List Char) : Prop :=
  name.IsChain fun a b => b.isUpper = true → isLowerOrDigit a = true

instance (name : List Char) : Decidable (CapitalsBeginWords name) :=
  inferInstanceAs (Decidable (name.IsChain fun a b => b.isUpper = true → isLowerOrDigit a = true))

/-- The name of a field in the style of programs: it begins with no capital, and every capital in
it begins a word. -/
structure IsFieldName (name : List Char) : Prop where
  chars : ∀ c ∈ name, isFieldChar c = true
  head : ∀ c ∈ name.head?, c.isUpper = false
  capitals : CapitalsBeginWords name

instance (name : List Char) : Decidable (IsFieldName name) :=
  decidable_of_iff (name.all isFieldChar = true ∧ name.head?.any Char.isUpper = false ∧
      CapitalsBeginWords name)
    ⟨fun h => ⟨List.all_eq_true.1 h.1, (Option.any_eq_false _ _).1 h.2.1, h.2.2⟩,
      fun h => ⟨List.all_eq_true.2 h.chars, (Option.any_eq_false _ _).2 h.head, h.capitals⟩⟩

/-- The name begins with `no` and the capital of another word, which goes on with `rest`. -/
def BeginsWithNo (name : List Char) (capital : Char) (rest : List Char) : Prop :=
  capital.isUpper = true ∧ name = 'n' :: 'o' :: capital :: rest

/-- Where capitals only begin words, every capital behind another character begins one. -/
theorem CapitalsBeginWords.isBoundary_eq {a b : Char} {rest : List Char}
    (h : CapitalsBeginWords (a :: b :: rest)) : isBoundary a b = b.isUpper := by
  rw [isBoundary]
  cases hb : b.isUpper with
  | false => exact Bool.and_false _
  | true => rw [(List.isChain_cons_cons.1 h).1 hb, Bool.and_self]

theorem CapitalsBeginWords.tail {a : Char} {rest : List Char}
    (h : CapitalsBeginWords (a :: rest)) : CapitalsBeginWords rest :=
  List.IsChain.tail h

theorem toNat_lt_of_isFieldChar {c : Char} (h : isFieldChar c = true) : c.toNat < 128 := by
  simp only [isFieldChar, Bool.or_eq_true, beq_iff_eq] at h
  rcases h with (h | rfl) | rfl
  · exact toNat_lt_of_isPlain h
  · decide
  · decide

theorem toLower_ne_hyphen {c : Char} (h : isFieldChar c = true) : c.toLower ≠ '-' := by
  have hall : ∀ n < 128, isFieldChar (Char.ofNat n) = true → (Char.ofNat n).toLower ≠ '-' := by
    decide
  exact forall_ascii (P := fun c => isFieldChar c = true → c.toLower ≠ '-') hall
    (toNat_lt_of_isFieldChar h) h

/-- A capital is the upper case of its lower case. -/
theorem upperChar_toLower {c : Char} (h : c.isUpper = true) : upperChar c.toLower = [c] := by
  have hlower : c.toLower.isLower = true := by
    rw [Char.isLower_toLower_eq_isAlpha, Char.isAlpha, h, Bool.true_or]
  have hascii := (isLower_iff.1 hlower).2
  rw [upperChar_of_ascii (by omega), Char.toUpper_toLower_eq_toUpper,
    Char.toUpper_eq_of_not_isLower (Char.not_isLower_of_isUpper h)]

/-- The token of a field is put in lower case character by character. -/
theorem toList_token_of_isFieldChar {f : String} (h : ∀ c ∈ f.toList, isFieldChar c = true) :
    (token f).toList = (hyphenate f.toList).map Char.toLower := by
  rw [toList_token]
  refine toLower_of_ascii fun c hc => ?_
  by_cases hhyphen : c = '-'
  · rw [hhyphen]
    decide
  · exact toNat_lt_of_isFieldChar (h c ((mem_hyphenate_iff hhyphen).1 hc))

/-! ## Joining words -/

/-- The parts of a text between hyphens one after the other, each but the first with a capital. -/
def joinWords (s : List Char) : List Char :=
  match splitOn '-' s with
  | [] => []
  | first :: others => first ++ (others.map capitalize).flatten

theorem toList_optionKey (flag : String) :
    (optionKey flag).toList = joinWords ((negated? flag).getD flag.toList) := by
  rw [optionKey, joinWords]
  cases splitOn '-' ((negated? flag).getD flag.toList) with
  | nil => rfl
  | cons first others => rw [String.toList_ofList]

theorem joinWords_cons {c : Char} (hc : c ≠ '-') (s : List Char) :
    joinWords (c :: s) = c :: joinWords s := by
  rw [joinWords, joinWords, splitOn]
  cases h : splitOn '-' s with
  | nil => exact absurd h (splitOn_ne_nil '-' s)
  | cons piece pieces => simp [hc]

/-- The word behind a hyphen gets its capital. -/
theorem joinWords_hyphen_cons {c : Char} (hc : c ≠ '-') (s : List Char) :
    joinWords ('-' :: c :: s) = upperChar c ++ joinWords s := by
  simp only [joinWords, splitOn]
  cases h : splitOn '-' s with
  | nil => exact absurd h (splitOn_ne_nil '-' s)
  | cons piece pieces => simp [hc, capitalize]

/-- The name with its first character in lower case. -/
def decapitalize : List Char → List Char
  | [] => []
  | c :: rest => c.toLower :: rest

theorem exists_hyphenate_cons (c : Char) (rest : List Char) :
    ∃ others, hyphenate (c :: rest) = c :: others := by
  have hhead := head?_hyphenate (c :: rest)
  cases h : hyphenate (c :: rest) with
  | nil => rw [h] at hhead; exact nomatch hhead
  | cons first others =>
    rw [h, List.head?_cons, List.head?_cons, Option.some_inj] at hhead
    exact ⟨others, by rw [hhead]⟩

/-- **Joining the words that were divided** gives the name back, its first character in lower
case. -/
theorem joinWords_hyphenate {name : List Char} (hchars : ∀ c ∈ name, isFieldChar c = true)
    (hcapitals : CapitalsBeginWords name) :
    joinWords ((hyphenate name).map Char.toLower) = decapitalize name := by
  induction name with
  | nil => rfl
  | cons a rest ih =>
    have ha : a.toLower ≠ '-' := toLower_ne_hyphen (hchars a List.mem_cons_self)
    cases rest with
    | nil =>
      rw [hyphenate]
      · exact joinWords_cons ha []
      · simp
    | cons b rest =>
      have hrest := ih (fun c hc => hchars c (List.mem_cons_of_mem a hc)) hcapitals.tail
      rw [hyphenate_cons_cons, hcapitals.isBoundary_eq]
      cases hupper : b.isUpper with
      | false =>
        rw [if_neg Bool.false_ne_true, List.map_cons, joinWords_cons ha, hrest, decapitalize,
          decapitalize, Char.toLower_eq_of_not_isUpper (Bool.eq_false_iff.1 hupper)]
      | true =>
        -- A word begins with `b`: it was put in lower case, and the hyphen gives it back.
        have hb : b.toLower ≠ '-' := toLower_ne_hyphen (hchars b (by simp))
        obtain ⟨others, hothers⟩ := exists_hyphenate_cons b rest
        rw [hothers, List.map_cons, joinWords_cons hb, decapitalize] at hrest
        rw [if_pos rfl, hothers, List.map_cons, List.map_cons, List.map_cons, joinWords_cons ha,
          show Char.toLower '-' = '-' from rfl, joinWords_hyphen_cons hb, (List.cons.inj hrest).2,
          upperChar_toLower hupper]
        rfl

theorem decapitalize_eq_self {name : List Char} (h : ∀ c ∈ name.head?, c.isUpper = false) :
    decapitalize name = name := by
  cases name with
  | nil => rfl
  | cons c rest => rw [decapitalize, Char.toLower_eq_of_not_isUpper (Bool.eq_false_iff.1 (h c rfl))]

/-! ## Switching off -/

theorem negated?_eq_some_iff {flag : String} {rest : List Char} :
    negated? flag = some rest ↔ flag.toList = 'n' :: 'o' :: '-' :: rest ∧ rest ≠ [] := by
  rw [negated?, Option.filter_eq_some_iff, stripPrefix?_eq_some_iff]
  simp

theorem negated?_eq_none_iff {flag : String} : negated? flag = none ↔ isNegated flag = false := by
  simp [isNegated]

/-- Only a name that begins with `no` and another word has a token that begins with `no-`. -/
theorem IsFieldName.exists_beginsWithNo {name rest : List Char} (h : IsFieldName name)
    (htoken : (hyphenate name).map Char.toLower = 'n' :: 'o' :: '-' :: rest) :
    ∃ capital rest, BeginsWithNo name capital rest := by
  match name, h with
  | [], _ => simp [hyphenate] at htoken
  | [a], _ => simp [hyphenate] at htoken
  | a :: b :: others, h =>
    rw [hyphenate_cons_cons, h.capitals.isBoundary_eq] at htoken
    cases hb : b.isUpper with
    | true => simp [hb] at htoken
    | false =>
      rw [hb, if_neg Bool.false_ne_true, List.map_cons, List.cons.injEq,
        Char.toLower_eq_of_not_isUpper (Bool.eq_false_iff.1 (h.head a rfl))] at htoken
      obtain ⟨rfl, htoken⟩ := htoken
      match others, h with
      | [], _ => simp [hyphenate] at htoken
      | c :: others, h =>
        rw [hyphenate_cons_cons, h.capitals.tail.isBoundary_eq] at htoken
        cases hc : c.isUpper with
        | true =>
          refine ⟨c, others, hc, ?_⟩
          simp only [hc, if_pos, List.map_cons, List.cons.injEq,
            Char.toLower_eq_of_not_isUpper (Bool.eq_false_iff.1 hb)] at htoken
          rw [htoken.1]
        | false =>
          obtain ⟨behind, hbehind⟩ := exists_hyphenate_cons c others
          rw [hc, if_neg Bool.false_ne_true, hbehind, List.map_cons, List.map_cons, List.cons.injEq,
            List.cons.injEq] at htoken
          exact absurd htoken.2.1 (toLower_ne_hyphen (h.chars c (by simp)))

/-- **The key of the flag for a field** that does not begin with `no` and another word is the
field. -/
theorem optionKey_token_of_not_beginsWithNo {f : String} (h : IsFieldName f.toList)
    (hno : ¬ ∃ capital rest, BeginsWithNo f.toList capital rest) :
    isNegated (token f) = false ∧ optionKey (token f) = f := by
  have htoken := toList_token_of_isFieldChar h.chars
  have hnone : negated? (token f) = none := by
    rw [Option.eq_none_iff_forall_ne_some]
    intro rest hrest
    rw [negated?_eq_some_iff, htoken] at hrest
    exact hno (h.exists_beginsWithNo hrest.1)
  refine ⟨negated?_eq_none_iff.1 hnone, String.toList_inj.1 ?_⟩
  rw [toList_optionKey, hnone, Option.getD_none, htoken, joinWords_hyphenate h.chars h.capitals,
    decapitalize_eq_self h.head]

/-- **A field that begins with `no` and another word** is switched off by its flag, whose key is
the rest of the field. -/
theorem optionKey_token_of_beginsWithNo {f : String} (h : IsFieldName f.toList) {capital : Char}
    {rest : List Char} (hno : BeginsWithNo f.toList capital rest) :
    isNegated (token f) = true ∧
      optionKey (token f) = String.ofList (capital.toLower :: rest) := by
  obtain ⟨hupper, hf⟩ := hno
  have hchars := h.chars
  have hcapitals := h.capitals
  have htoken := toList_token_of_isFieldChar hchars
  rw [hf] at hchars hcapitals htoken
  have hno : hyphenate ('n' :: 'o' :: capital :: rest)
      = 'n' :: 'o' :: '-' :: hyphenate (capital :: rest) := by
    rw [hyphenate_cons_cons, if_neg (by decide), hyphenate_cons_cons, if_pos]
    exact hcapitals.tail.isBoundary_eq.trans hupper
  have hsome : negated? (token f) = some ((hyphenate (capital :: rest)).map Char.toLower) := by
    obtain ⟨others, hothers⟩ := exists_hyphenate_cons capital rest
    rw [negated?_eq_some_iff, htoken, hno, hothers]
    exact ⟨rfl, List.cons_ne_nil _ _⟩
  refine ⟨by rw [isNegated, hsome]; rfl, String.toList_inj.1 ?_⟩
  rw [toList_optionKey, hsome, Option.getD_some, String.toList_ofList,
    joinWords_hyphenate (fun c hc => hchars c (by simp [List.mem_cons.1 hc])) hcapitals.tail.tail]
  rfl

/-- What a flag switches off is kept under the key of the flag that does not. -/
theorem optionKey_no {flag : String} (hne : flag ≠ "") (h : isNegated flag = false) :
    optionKey ("no-" ++ flag) = optionKey flag := by
  have hsome : negated? ("no-" ++ flag) = some flag.toList := by
    rw [negated?_eq_some_iff, String.toList_append]
    exact ⟨rfl, fun hnil => hne (String.toList_eq_nil_iff.1 hnil)⟩
  rw [← String.toList_inj, toList_optionKey, toList_optionKey, hsome, negated?_eq_none_iff.2 h]
  rfl

/-- **Fields survive the trip through the keys of flags.**  The flag for a field keeps its value
under the field; if the field begins with `no` and another word, the flag switches off what is kept
under the rest, its capital in lower case; and a flag that switches something off is kept under the
key of the flag that does not. -/
theorem optionKey_reads_back :
    (∀ f : String, IsFieldName f.toList →
      ((¬ ∃ capital rest, BeginsWithNo f.toList capital rest) →
        isNegated (token f) = false ∧ optionKey (token f) = f) ∧
      ∀ capital rest, BeginsWithNo f.toList capital rest →
        isNegated (token f) = true ∧
          optionKey (token f) = String.ofList (capital.toLower :: rest)) ∧
    ∀ flag : String, flag ≠ "" → isNegated flag = false →
      optionKey ("no-" ++ flag) = optionKey flag :=
  ⟨fun _ h => ⟨optionKey_token_of_not_beginsWithNo h, fun _ _ => optionKey_token_of_beginsWithNo h⟩,
    fun _ => optionKey_no⟩

/-- A field with digits before its capitals, one that begins with `no` twice, and a flag. -/
theorem optionKey_reads_back_of_three_names :
    (IsFieldName "node2Http".toList ∧ optionKey (token "node2Http") = "node2Http") ∧
    (IsFieldName "noNoCache".toList ∧ isNegated (token "noNoCache") = true ∧
      optionKey (token "noNoCache") = "noCache") ∧
    optionKey ("no-" ++ "dry-run") = optionKey "dry-run" := by
  have hnode : IsFieldName "node2Http".toList := by decide
  have hcache : IsFieldName "noNoCache".toList := by decide
  have hno : ¬ ∃ capital rest, BeginsWithNo "node2Http".toList capital rest := by
    rintro ⟨capital, rest, hupper, hname⟩
    obtain ⟨rfl, -⟩ : 'd' = capital ∧ "e2Http".toList = rest := by simpa using hname
    exact absurd hupper (by decide)
  obtain ⟨hfields, hflags⟩ := optionKey_reads_back
  obtain ⟨hnegated, hkey⟩ := (hfields "noNoCache" hcache).2 'N' "oCache".toList ⟨rfl, rfl⟩
  exact ⟨⟨hnode, ((hfields "node2Http" hnode).1 hno).2⟩, ⟨hcache, hnegated, hkey⟩,
    hflags "dry-run" (by decide) (by decide)⟩

end Naming
end CommandGrove
