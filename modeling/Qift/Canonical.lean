import Qift.Lib.Reading
import Qift.Lib.Sorting
import Qift.Settlement.CreditNote

/-!
# Canonical JSON identifies a document

`canonicalJson` of `settlement-statement.ts` as a canonical form.

* `Json.Same` is equality of JSON values up to the order of object members, at every level; `Json.WellFormed` says
  that the numbers are numbers of the platform and that an object has one member for each key.
* `NumberTexts` is what is assumed of the text of a number: it is injective and spelled with digits, sign, point and
  exponent.
* `canonicalJson_eq_iff_same` settles both directions: the same document has one text, and a text is read back in one
  way only. The hashes of calculations, statements and credit notes follow for a digest without collisions.
-/

namespace Qift

open Qift.Lib

/-! ### Equality up to member order -/

mutual

/-- The same JSON value, up to the order of members in its objects. -/
inductive Json.Same : Json → Json → Prop
  | null : Json.Same .null .null
  | bool (b : Bool) : Json.Same (.bool b) (.bool b)
  | num (x : ℚ) : Json.Same (.num x) (.num x)
  | str (s : String) : Json.Same (.str s) (.str s)
  | arr {xs ys : List Json} : Json.SameValues xs ys → Json.Same (.arr xs) (.arr ys)
  | obj {ms ordered ns : List (String × Json)} :
      ms.Perm ordered → Json.SameMembers ordered ns → Json.Same (.obj ms) (.obj ns)

/-- The same elements in the same order. -/
inductive Json.SameValues : List Json → List Json → Prop
  | nil : Json.SameValues [] []
  | cons {x y : Json} {xs ys : List Json} :
      Json.Same x y → Json.SameValues xs ys → Json.SameValues (x :: xs) (y :: ys)

/-- The same members in the same order. -/
inductive Json.SameMembers : List (String × Json) → List (String × Json) → Prop
  | nil : Json.SameMembers [] []
  | cons {key : String} {x y : Json} {ms ns : List (String × Json)} :
      Json.Same x y → Json.SameMembers ms ns → Json.SameMembers ((key, x) :: ms) ((key, y) :: ns)

end

mutual

/-- Numbers from `finite` only, and objects with one member for each key. -/
def Json.WellFormed (finite : Set ℚ) : Json → Prop
  | .null => True
  | .bool _ => True
  | .num x => x ∈ finite
  | .str _ => True
  | .arr values => Json.WellFormedValues finite values
  | .obj members => (members.map Prod.fst).Nodup ∧ Json.WellFormedMembers finite members

def Json.WellFormedValues (finite : Set ℚ) : List Json → Prop
  | [] => True
  | v :: rest => Json.WellFormed finite v ∧ Json.WellFormedValues finite rest

def Json.WellFormedMembers (finite : Set ℚ) : List (String × Json) → Prop
  | [] => True
  | (_, v) :: rest => Json.WellFormed finite v ∧ Json.WellFormedMembers finite rest

end

section Shape

variable {finite : Set ℚ}

theorem Json.wellFormedValues_iff (values : List Json) :
    Json.WellFormedValues finite values ↔ ∀ v ∈ values, v.WellFormed finite := by
  induction values with
  | nil => simp [Json.WellFormedValues]
  | cons v rest ih => simp [Json.WellFormedValues, ih]

theorem Json.wellFormedMembers_iff (members : List (String × Json)) :
    Json.WellFormedMembers finite members ↔ ∀ m ∈ members, m.2.WellFormed finite := by
  induction members with
  | nil => simp [Json.WellFormedMembers]
  | cons m rest ih => simp [Json.WellFormedMembers, ih]

/-- Element by element the same, as one relation of two lists. -/
theorem Json.sameValues_of_forall₂ {xs ys : List Json} (h : List.Forall₂ Json.Same xs ys) :
    Json.SameValues xs ys := by
  induction h with
  | nil => exact .nil
  | cons hxy _ ih => exact .cons hxy ih

theorem Json.sameMembers_of_forall₂ {ms ns : List (String × Json)}
    (h : List.Forall₂ (fun m n => m.1 = n.1 ∧ m.2.Same n.2) ms ns) : Json.SameMembers ms ns := by
  induction h with
  | nil => exact .nil
  | cons hmn _ ih =>
      rename_i m n _ _ _
      obtain ⟨key, x⟩ := m
      obtain ⟨key', y⟩ := n
      obtain ⟨rfl, hxy⟩ := hmn
      exact .cons hxy ih

end Shape

/-! ### The key order -/

/-- The UTF-16 code units of one character. -/
def charUnits (c : Char) : List Nat :=
  if c.toNat < 65536 then [c.toNat]
  else [55296 + (c.toNat - 65536) / 1024, 56320 + (c.toNat - 65536) % 1024]

/-- A character outside the surrogates. -/
theorem char_toNat_valid (c : Char) : c.toNat < 55296 ∨ (57343 < c.toNat ∧ c.toNat < 1114112) :=
  c.valid

theorem char_toNat_inj {c d : Char} (h : c.toNat = d.toNat) : c = d := Char.ext (UInt32.toNat_inj.mp h)

theorem charUnits_reads (c d : Char) (r s : List Nat) (h : charUnits c ++ r = charUnits d ++ s) :
    c = d ∧ r = s := by
  have hc := char_toNat_valid c
  have hd := char_toNat_valid d
  unfold charUnits at h
  split at h <;> split at h
  · obtain ⟨hcd, hrs⟩ : c.toNat = d.toNat ∧ r = s := by simpa using h
    exact ⟨char_toNat_inj hcd, hrs⟩
  · have hhead : c.toNat = 55296 + (d.toNat - 65536) / 1024 := by simp at h; exact h.1
    omega
  · have hhead : 55296 + (c.toNat - 65536) / 1024 = d.toNat := by simp at h; exact h.1
    omega
  · obtain ⟨hhigh, hlow, hrs⟩ : (c.toNat - 65536) / 1024 = (d.toNat - 65536) / 1024 ∧
        (c.toNat - 65536) % 1024 = (d.toNat - 65536) % 1024 ∧ r = s := by simpa using h
    exact ⟨char_toNat_inj (by omega), hrs⟩

theorem charUnits_ne_nil (c : Char) : charUnits c ≠ [] := by
  unfold charUnits
  split <;> simp

theorem flatMap_charUnits_inj (xs ys : List Char) (h : xs.flatMap charUnits = ys.flatMap charUnits) :
    xs = ys := by
  induction xs generalizing ys with
  | nil =>
      cases ys with
      | nil => rfl
      | cons d ys => simp [charUnits_ne_nil] at h
  | cons c xs ih =>
      cases ys with
      | nil => simp [charUnits_ne_nil] at h
      | cons d ys =>
          rw [List.flatMap_cons, List.flatMap_cons] at h
          obtain ⟨rfl, htail⟩ := charUnits_reads c d _ _ h
          rw [ih ys htail]

theorem codeUnits_injective : Function.Injective codeUnits := by
  intro s t h
  have hlist : s.toList = t.toList := flatMap_charUnits_inj _ _ h
  exact String.toList_inj.mp hlist

/-! ### Reading strings -/

def escapeChars (c : Char) : List Char := (jsonEscape c).toList

/-- Reads one escape off a text. -/
def readEscape : List Char → Option (Char × List Char)
  | '\\' :: 'b' :: r => some (Char.ofNat 8, r)
  | '\\' :: 't' :: r => some (Char.ofNat 9, r)
  | '\\' :: 'n' :: r => some (Char.ofNat 10, r)
  | '\\' :: 'f' :: r => some (Char.ofNat 12, r)
  | '\\' :: 'r' :: r => some (Char.ofNat 13, r)
  | '\\' :: 'u' :: '0' :: '0' :: high :: low :: r => some (Char.ofNat (16 * digit high + digit low), r)
  | '\\' :: c :: r => some (c, r)
  | c :: r => some (c, r)
  | [] => none
where
  /-- The value of a hexadecimal digit. -/
  digit (c : Char) : Nat := if c.toNat < 58 then c.toNat - 48 else c.toNat - 87

theorem readEscape_digits : ∀ n < 32,
    Char.ofNat (16 * readEscape.digit (Nat.digitChar (n / 16)) + readEscape.digit (Nat.digitChar (n % 16))) =
      Char.ofNat n := by
  decide

theorem readEscape_escapeChars (c : Char) (r : List Char) : readEscape (escapeChars c ++ r) = some (c, r) := by
  have hnat (n : Nat) (h : c.toNat = n) : Char.ofNat n = c := by
    rw [← h]
    exact Char.ofNat_toNat c
  unfold escapeChars jsonEscape
  split
  · next h => subst h; rfl
  split
  · next h => subst h; rfl
  split
  · next h =>
      obtain rfl := hnat 8 h
      rfl
  split
  · next h =>
      obtain rfl := hnat 9 h
      rfl
  split
  · next h =>
      obtain rfl := hnat 10 h
      rfl
  split
  · next h =>
      obtain rfl := hnat 12 h
      rfl
  split
  · next h =>
      obtain rfl := hnat 13 h
      rfl
  split
  · next h =>
      have hdigits := readEscape_digits c.toNat h
      simp [readEscape, jsonEscape.hexDigits, hdigits, Char.ofNat_toNat]
  · next hquote hslash _ _ _ _ _ _ =>
      simp only [String.toList_ofList, List.cons_append, List.nil_append]
      unfold readEscape
      split <;> simp_all

/-- Escapes are read one at a time, and none of them opens with the closing quote. -/
theorem escape_code : Code escapeChars '"' where
  reads a b r s heq := by
    have ha := readEscape_escapeChars a r
    rw [heq, readEscape_escapeChars b s] at ha
    obtain ⟨rfl, rfl⟩ : b = a ∧ s = r := by simpa using ha
    exact ⟨rfl, rfl⟩
  opens a := by
    unfold escapeChars jsonEscape
    split
    · exact ⟨'\\', ['"'], rfl, by decide⟩
    repeat' split
    all_goals try exact ⟨'\\', _, rfl, by decide⟩
    · exact ⟨'\\', 'u' :: '0' :: '0' :: jsonEscape.hexDigits a.toNat, by simp, by decide⟩
    · exact ⟨a, [], by simp, by assumption⟩

theorem jsonQuote_toList (s : String) : (jsonQuote s).toList = '"' :: (s.toList.flatMap escapeChars ++ ['"']) := by
  simp only [jsonQuote, String.toList_append, String.toList_join, List.flatMap_map]
  rfl

theorem read_jsonQuote (s t : String) (r u : List Char)
    (heq : (jsonQuote s).toList ++ r = (jsonQuote t).toList ++ u) : s = t ∧ r = u := by
  rw [jsonQuote_toList, jsonQuote_toList] at heq
  have hcoded : s.toList.flatMap escapeChars ++ '"' :: r = t.toList.flatMap escapeChars ++ '"' :: u := by
    simpa using heq
  obtain ⟨hst, hru⟩ := read_coded escape_code _ _ _ _ hcoded
  exact ⟨String.toList_inj.mp hst, hru⟩

/-! ### Reading values -/

/-- The letters of a number: digits, sign, point and exponent. -/
def isNumberChar (c : Char) : Bool := c.isDigit || c = '-' || c = '+' || c = '.' || c = 'e'

/-- What is assumed of the texts of the platform's finite numbers. -/
structure NumberTexts [Runtime] (finite : Set ℚ) : Prop where
  injective : Set.InjOn Runtime.numberToString finite
  nonempty : ∀ x ∈ finite, Runtime.numberToString x ≠ ""
  letters : ∀ x ∈ finite, ∀ c ∈ (Runtime.numberToString x).toList, isNumberChar c

/-- The letters that follow a value inside a document. -/
def endsValue (c : Char) : Prop := c = ',' ∨ c = ']' ∨ c = '\x7d'

theorem not_endsValue_of_isNumberChar {c : Char} (h : isNumberChar c) : ¬ endsValue c := by
  rintro (rfl | rfl | rfl)
  · exact absurd h (by decide)
  · exact absurd h (by decide)
  · exact absurd h (by decide)

/-- The kind of a value, as its first letter shows it. -/
def Json.kind : Json → Nat
  | .null => 0
  | .bool _ => 1
  | .num _ => 2
  | .str _ => 3
  | .arr _ => 4
  | .obj _ => 5

/-- The kind of value a letter opens; six where it opens none. -/
def letterKind (c : Char) : Nat :=
  if isNumberChar c then 2
  else if c = 'n' then 0
  else if c = 't' ∨ c = 'f' then 1
  else if c = '"' then 3
  else if c = '[' then 4
  else if c = '\x7b' then 5
  else 6

section Text

variable [Runtime]

/-- The canonical text of a value, letter by letter. -/
def Json.text (a : Json) : List Char := (canonicalJson a).toList

theorem canonicalValues_eq_map (values : List Json) : canonicalValues values = values.map canonicalJson := by
  induction values with
  | nil => simp [canonicalValues]
  | cons v rest ih => simp [canonicalValues, ih]

/-- A member with its canonical text. -/
def memberEntry (m : String × Json) : String × String := (m.1, canonicalJson m.2)

theorem canonicalMembers_eq_map (members : List (String × Json)) :
    canonicalMembers members = members.map memberEntry := by
  induction members with
  | nil => simp [canonicalMembers]
  | cons m rest ih => simp [canonicalMembers, memberEntry, ih]

/-- The order of members by key. -/
def memberLE (m n : String × Json) : Prop := codeUnits m.1 ≤ codeUnits n.1

instance (m n : String × Json) : Decidable (memberLE m n) :=
  inferInstanceAs (Decidable (codeUnits m.1 ≤ codeUnits n.1))

/-- A member as it is printed. -/
def memberText (m : String × Json) : List Char := (jsonQuote m.1).toList ++ ':' :: m.2.text

theorem sort_canonicalMembers (members : List (String × Json)) :
    (canonicalMembers members).insertionSort keyLE = (members.insertionSort memberLE).map memberEntry := by
  rw [canonicalMembers_eq_map]
  exact (List.map_insertionSort memberLE keyLE memberEntry members (fun _ _ _ _ => Iff.rfl)).symm

theorem text_arr (values : List Json) :
    (Json.arr values).text = '[' :: ([','].intercalate (values.map Json.text) ++ [']']) := by
  simp [Json.text, canonicalJson, canonicalValues_eq_map, Function.comp_def]
  rfl

theorem text_obj (members : List (String × Json)) :
    (Json.obj members).text =
      '\x7b' :: ([','].intercalate ((members.insertionSort memberLE).map memberText) ++ ['\x7d']) := by
  simp [Json.text, canonicalJson, sort_canonicalMembers, Function.comp_def, memberEntry]
  rfl

/-! ### A text is read in one way -/

section Read

variable {finite : Set ℚ}

theorem text_opens (hnum : NumberTexts finite) (a : Json) (ha : a.WellFormed finite) :
    ∃ c tail, a.text = c :: tail ∧ letterKind c = a.kind := by
  cases a with
  | null => exact ⟨'n', ['u', 'l', 'l'], by simp [Json.text, canonicalJson], by decide⟩
  | bool b =>
      cases b with
      | true => exact ⟨'t', ['r', 'u', 'e'], by simp [Json.text, canonicalJson], by decide⟩
      | false => exact ⟨'f', ['a', 'l', 's', 'e'], by simp [Json.text, canonicalJson], by decide⟩
  | num x =>
      have hx : x ∈ finite := by simpa [Json.WellFormed] using ha
      have hne := hnum.nonempty x hx
      cases htext : (Runtime.numberToString x).toList with
      | nil => exact absurd (String.toList_eq_nil_iff.mp htext) hne
      | cons c tail =>
          have hc : isNumberChar c := hnum.letters x hx c (by simp [htext])
          exact ⟨c, tail, by simp [Json.text, canonicalJson, htext], by simp [letterKind, hc, Json.kind]⟩
  | str s =>
      refine ⟨'"', s.toList.flatMap escapeChars ++ ['"'], ?_, (by decide : letterKind '"' = 3)⟩
      simp [Json.text, canonicalJson, jsonQuote_toList]
  | arr values => exact ⟨'[', _, text_arr values, (by decide : letterKind '[' = 4)⟩
  | obj members => exact ⟨'\x7b', _, text_obj members, (by decide : letterKind '\x7b' = 5)⟩

theorem text_opens_ne (hnum : NumberTexts finite) (a : Json) (ha : a.WellFormed finite) {close : Char}
    (hclose : letterKind close = 6) : ∃ c tail, a.text = c :: tail ∧ c ≠ close := by
  obtain ⟨c, tail, htext, hkind⟩ := text_opens hnum a ha
  refine ⟨c, tail, htext, ?_⟩
  rintro rfl
  rw [hclose] at hkind
  cases a <;> cases hkind

theorem kind_eq_of_text (hnum : NumberTexts finite) {a b : Json} (ha : a.WellFormed finite)
    (hb : b.WellFormed finite) {r s : List Char} (heq : a.text ++ r = b.text ++ s) : a.kind = b.kind := by
  obtain ⟨c, tail, hc, hkind⟩ := text_opens hnum a ha
  obtain ⟨d, tail', hd, hkind'⟩ := text_opens hnum b hb
  have hcd : c = d := by
    rw [hc, hd] at heq
    simp at heq
    exact heq.1
  rw [← hkind, ← hkind', hcd]

theorem reads_memberText {m n : String × Json} {P : Prop} (h : Reads endsValue m.2.text n.2.text P) :
    Reads endsValue (memberText m) (memberText n) (m.1 = n.1 ∧ P) := by
  intro r s hr hs heq
  rw [memberText, memberText, List.append_assoc, List.append_assoc] at heq
  obtain ⟨hkey, htail⟩ := read_jsonQuote m.1 n.1 _ _ heq
  have hvalue : m.2.text ++ r = n.2.text ++ s := by simpa using htail
  obtain ⟨hP, hrs⟩ := h r s hr hs hvalue
  exact ⟨⟨hkey, hP⟩, hrs⟩

theorem memberText_opens (m : String × Json) : ∃ c tail, memberText m = c :: tail ∧ c ≠ '\x7d' := by
  have htext : memberText m = '"' :: (m.1.toList.flatMap escapeChars ++ ['"'] ++ ':' :: m.2.text) := by
    rw [memberText, jsonQuote_toList]
    rfl
  exact ⟨'"', _, htext, by decide⟩

omit [Runtime] in
/-- A permutation on the right of two aligned lists of members can be moved to the left. -/
theorem Json.same_obj_of_sorted {ms ns : List (String × Json)}
    (h : List.Forall₂ (fun m n => m.1 = n.1 ∧ m.2.Same n.2) (ms.insertionSort memberLE)
      (ns.insertionSort memberLE)) : Json.Same (.obj ms) (.obj ns) := by
  have hms : ms.Perm (ms.insertionSort memberLE) := (List.perm_insertionSort memberLE ms).symm
  have hns : (ns.insertionSort memberLE).Perm ns := List.perm_insertionSort memberLE ns
  have hflip := List.perm_comp_forall₂ hns.symm (List.Forall₂.flip h)
  obtain ⟨ordered, haligned, hperm⟩ := hflip
  exact .obj (hms.trans hperm.symm) (Json.sameMembers_of_forall₂ (List.Forall₂.flip haligned))

/-- Before a separator or a close, the text of a value is read in one way, up to member order. -/
theorem reads_text (hnum : NumberTexts finite) (a b : Json) (ha : a.WellFormed finite)
    (hb : b.WellFormed finite) : Reads endsValue a.text b.text (a.Same b) := by
  induction hsize : sizeOf a using Nat.strong_induction_on generalizing a b with
  | _ size ih =>
    subst hsize
    intro r s hr hs heq
    have hkind := kind_eq_of_text hnum ha hb heq
    cases a with
    | null =>
        cases b <;> cases hkind
        exact ⟨.null, by simpa using heq⟩
    | bool x =>
        cases b <;> cases hkind
        rename_i y
        cases x <;> cases y
        · exact ⟨.bool _, by simpa using heq⟩
        · simp [Json.text, canonicalJson] at heq
        · simp [Json.text, canonicalJson] at heq
        · exact ⟨.bool _, by simpa using heq⟩
    | num x =>
        cases b <;> cases hkind
        rename_i y
        have hx : x ∈ finite := by simpa [Json.WellFormed] using ha
        have hy : y ∈ finite := by simpa [Json.WellFormed] using hb
        have hspan : Reads endsValue _ _ _ :=
          reads_span (fun c hc => not_endsValue_of_isNumberChar (hnum.letters x hx c hc))
            (fun c hc => not_endsValue_of_isNumberChar (hnum.letters y hy c hc))
        simp only [Json.text, canonicalJson] at heq
        obtain ⟨htext, hrs⟩ := hspan r s hr hs heq
        obtain rfl := hnum.injective hx hy (String.toList_inj.mp htext)
        exact ⟨.num x, hrs⟩
    | str x =>
        cases b <;> cases hkind
        rename_i y
        simp only [Json.text, canonicalJson] at heq
        obtain ⟨rfl, hrs⟩ := read_jsonQuote x y r s heq
        exact ⟨.str x, hrs⟩
    | arr xs =>
        cases b <;> cases hkind
        rename_i ys
        rw [Json.WellFormed, Json.wellFormedValues_iff] at ha hb
        rw [text_arr, text_arr] at heq
        have hlist : [','].intercalate (xs.map Json.text) ++ ']' :: r =
            [','].intercalate (ys.map Json.text) ++ ']' :: s := by simpa using heq
        have hread : ∀ x ∈ xs, ∀ y ∈ ys, Reads endsValue x.text y.text (x.Same y) := by
          intro x hx y hy
          have hlt : sizeOf x < sizeOf (Json.arr xs) := by
            have := List.sizeOf_lt_of_mem hx
            simp
            omega
          exact ih _ hlt x y (ha x hx) (hb y hy) rfl
        obtain ⟨hsame, hrs⟩ := read_separated (.inl rfl) (.inr (.inl rfl)) (by decide) xs ys hread
          (fun x hx => text_opens_ne hnum x (ha x hx) (by decide))
          (fun y hy => text_opens_ne hnum y (hb y hy) (by decide)) r s hlist
        exact ⟨.arr (Json.sameValues_of_forall₂ hsame), hrs⟩
    | obj ms =>
        cases b <;> cases hkind
        rename_i ns
        obtain ⟨-, hms⟩ := ha
        obtain ⟨-, hns⟩ := hb
        rw [Json.wellFormedMembers_iff] at hms hns
        rw [text_obj, text_obj] at heq
        have hlist : [','].intercalate ((ms.insertionSort memberLE).map memberText) ++ '\x7d' :: r =
            [','].intercalate ((ns.insertionSort memberLE).map memberText) ++ '\x7d' :: s := by
          simpa using heq
        have hread : ∀ m ∈ ms.insertionSort memberLE, ∀ n ∈ ns.insertionSort memberLE,
            Reads endsValue (memberText m) (memberText n) (m.1 = n.1 ∧ m.2.Same n.2) := by
          intro m hm n hn
          have hm' : m ∈ ms := (List.mem_insertionSort memberLE).mp hm
          have hn' : n ∈ ns := (List.mem_insertionSort memberLE).mp hn
          have hlt : sizeOf m.2 < sizeOf (Json.obj ms) := by
            have hmember := List.sizeOf_lt_of_mem hm'
            obtain ⟨key, v⟩ := m
            simp at hmember ⊢
            omega
          exact reads_memberText (ih _ hlt m.2 n.2 (hms m hm') (hns n hn') rfl)
        obtain ⟨hsame, hrs⟩ := read_separated (.inl rfl) (.inr (.inr rfl)) (by decide)
          (ms.insertionSort memberLE) (ns.insertionSort memberLE) hread
          (fun m _ => memberText_opens m) (fun n _ => memberText_opens n) r s hlist
        exact ⟨Json.same_obj_of_sorted hsame, hrs⟩

end Read

/-! ### The same document has one text -/

section Print

variable {finite : Set ℚ}

omit [Runtime] in
/-- Members with distinct keys are printed in one order. -/
theorem sort_entries_eq {es fs : List (String × String)} (hperm : es.Perm fs)
    (hnodup : (es.map Prod.fst).Nodup) : es.insertionSort keyLE = fs.insertionSort keyLE := by
  have hkeys : (es.map fun e => codeUnits e.1).Nodup := by
    have hmap := hnodup.map codeUnits_injective
    rwa [List.map_map] at hmap
  exact insertionSort_eq_of_perm (fun _ _ => Iff.rfl) hperm hkeys

mutual

theorem canonicalJson_congr {a b : Json} (h : a.Same b) (ha : a.WellFormed finite) :
    canonicalJson a = canonicalJson b := by
  cases h with
  | null => rfl
  | bool x => rfl
  | num x => rfl
  | str x => rfl
  | arr hvalues =>
      rw [Json.WellFormed] at ha
      rw [canonicalJson, canonicalJson, canonicalValues_congr hvalues ha]
  | obj hperm hmembers =>
      rename_i ms ordered ns
      obtain ⟨hnodup, hvalues⟩ := ha
      have hvalues' : Json.WellFormedMembers finite ordered := by
        rw [Json.wellFormedMembers_iff] at hvalues ⊢
        exact fun m hm => hvalues m (hperm.mem_iff.mpr hm)
      have hentries := canonicalMembers_congr hmembers hvalues'
      have hshuffle : (canonicalMembers ms).Perm (canonicalMembers ns) := by
        rw [← hentries, canonicalMembers_eq_map, canonicalMembers_eq_map]
        exact hperm.map memberEntry
      have hkeys : ((canonicalMembers ms).map Prod.fst).Nodup := by
        rw [canonicalMembers_eq_map, List.map_map]
        exact hnodup
      rw [canonicalJson, canonicalJson, sort_entries_eq hshuffle hkeys]

theorem canonicalValues_congr {xs ys : List Json} (h : Json.SameValues xs ys)
    (hx : Json.WellFormedValues finite xs) : canonicalValues xs = canonicalValues ys := by
  cases h with
  | nil => rfl
  | cons hxy hrest =>
      obtain ⟨hhead, htail⟩ := hx
      rw [canonicalValues, canonicalValues, canonicalJson_congr hxy hhead, canonicalValues_congr hrest htail]

theorem canonicalMembers_congr {ms ns : List (String × Json)} (h : Json.SameMembers ms ns)
    (hm : Json.WellFormedMembers finite ms) : canonicalMembers ms = canonicalMembers ns := by
  cases h with
  | nil => rfl
  | cons hxy hrest =>
      obtain ⟨hhead, htail⟩ := hm
      rw [canonicalMembers, canonicalMembers, canonicalJson_congr hxy hhead,
        canonicalMembers_congr hrest htail]

end

/-- The canonical text identifies a value up to member order. -/
theorem canonicalJson_eq_iff_same (hnum : NumberTexts finite) {a b : Json} (ha : a.WellFormed finite)
    (hb : b.WellFormed finite) : canonicalJson a = canonicalJson b ↔ a.Same b := by
  constructor
  · intro heq
    have htext : a.text ++ [] = b.text ++ [] := by rw [Json.text, Json.text, heq]
    exact (reads_text hnum a b ha hb [] [] trivial trivial htext).1
  · intro hsame
    exact canonicalJson_congr hsame ha

end Print

/-! ### Hashes -/

section Hashes

open Qift.Settlement

variable {finite : Set ℚ}

/-- A digest without collisions identifies what the canonical text identifies. -/
theorem hashCanonical_eq_iff_same (hnum : NumberTexts finite) (hsha : Function.Injective Runtime.sha256Hex)
    {a b : Json} (ha : a.WellFormed finite) (hb : b.WellFormed finite) :
    hashCanonical (canonicalJson a) = hashCanonical (canonicalJson b) ↔ a.Same b := by
  rw [hashCanonical, hashCanonical, hsha.eq_iff]
  exact canonicalJson_eq_iff_same hnum ha hb

/-- Canonical JSON is a canonical form up to member order, and the hashes built on it identify their documents. -/
theorem documents_identified (hnum : NumberTexts finite) :
    (∀ a b : Json, a.WellFormed finite → b.WellFormed finite →
      (canonicalJson a = canonicalJson b ↔ a.Same b)) ∧
    (Function.Injective Runtime.sha256Hex →
      (∀ c d : SettlementCalculation, c.toJson.WellFormed finite → d.toJson.WellFormed finite →
        (calculationHash c = calculationHash d ↔ c.toJson.Same d.toJson)) ∧
      (∀ s t : SettlementStatement, s.toJson.WellFormed finite → t.toJson.WellFormed finite →
        (statementHash s = statementHash t ↔ s.toJson.Same t.toJson)) ∧
      (∀ f g : CreditNoteFacts, (buildCreditNoteDocument f).WellFormed finite →
        (buildCreditNoteDocument g).WellFormed finite →
        (creditNoteHash f = creditNoteHash g ↔
          (buildCreditNoteDocument f).Same (buildCreditNoteDocument g)))) := by
  refine ⟨fun a b ha hb => canonicalJson_eq_iff_same hnum ha hb, fun hsha => ⟨?_, ?_, ?_⟩⟩
  · intro c d hc hd
    exact hashCanonical_eq_iff_same hnum hsha hc hd
  · intro s t hs ht
    exact hashCanonical_eq_iff_same hnum hsha hs ht
  · intro f g hf hg
    exact hashCanonical_eq_iff_same hnum hsha hf hg

end Hashes

end Text

theorem decimalText_zero : decimalText 0 = "0" := by
  norm_num [decimalText]
  rfl

theorem decimalText_one : decimalText 1 = "1" := by
  norm_num [decimalText]
  rfl

theorem plainRuntime_numberTexts : @NumberTexts plainRuntime {0, 1} := by
  refine @NumberTexts.mk plainRuntime {0, 1} ?_ ?_ ?_
  · rintro x (rfl | rfl) y (rfl | rfl) h
    · rfl
    · change decimalText 0 = decimalText 1 at h
      simp [decimalText_zero, decimalText_one] at h
    · change decimalText 1 = decimalText 0 at h
      simp [decimalText_zero, decimalText_one] at h
    · rfl
  · rintro x (rfl | rfl)
    · change decimalText 0 ≠ ""
      simp [decimalText_zero]
    · change decimalText 1 ≠ ""
      simp [decimalText_one]
  · rintro x (rfl | rfl)
    · change ∀ c ∈ (decimalText 0).toList, isNumberChar c
      simp [decimalText_zero, isNumberChar]
    · change ∀ c ∈ (decimalText 1).toList, isNumberChar c
      simp [decimalText_one, isNumberChar]

/-- A calculation of one item whose lines are all zero but the gross. -/
def oneItemCalculation (gross : Number) : Settlement.SettlementCalculation where
  currency := .SAR
  lines :=
    { merchantGross := gross
      marketplaceAdjustments := 0
      qiftFees := 0
      taxes := 0
      refunds := 0
      chargebacks := 0
      reserveHeld := 0
      reserveReleased := 0
      manualAdjustments := 0
      receivableRecovery := 0 }
  netAmount := gross
  itemCount := 1

/-- Two orders of the members of one object have one text; two calculations have one hash only if they agree. -/
theorem documents_identified_reordered :
    (@canonicalJson plainRuntime (.obj [("b", .num 1), ("a", .arr [.bool true, .null])]) =
      @canonicalJson plainRuntime (.obj [("a", .arr [.bool true, .null]), ("b", .num 1)])) ∧
    (@Settlement.calculationHash plainRuntime (oneItemCalculation 0) =
        @Settlement.calculationHash plainRuntime (oneItemCalculation 1) ↔
      (oneItemCalculation 0).toJson.Same (oneItemCalculation 1).toJson) := by
  have hboth := @documents_identified plainRuntime {0, 1} plainRuntime_numberTexts
  have hsame : Json.Same (.obj [("b", .num 1), ("a", .arr [.bool true, .null])])
      (.obj [("a", .arr [.bool true, .null]), ("b", .num 1)]) :=
    .obj (.swap _ _ _) (.cons (.arr (.cons (.bool true) (.cons .null .nil))) (.cons (.num 1) .nil))
  refine ⟨(hboth.1 _ _ ?_ ?_).mpr hsame, (hboth.2 Function.injective_id).1 _ _ ?_ ?_⟩
  · simp [Json.WellFormed, Json.WellFormedMembers, Json.WellFormedValues]
  · simp [Json.WellFormed, Json.WellFormedMembers, Json.WellFormedValues]
  · simp [oneItemCalculation, Settlement.SettlementCalculation.toJson, Settlement.SettlementLines.toJson,
      Json.WellFormed, Json.WellFormedMembers]
  · simp [oneItemCalculation, Settlement.SettlementCalculation.toJson, Settlement.SettlementLines.toJson,
      Json.WellFormed, Json.WellFormedMembers]

end Qift
