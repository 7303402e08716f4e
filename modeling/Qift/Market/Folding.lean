import Qift.Lib.Collapse
import Qift.Market.Zones

/-!
# Folded place names

`normaliseCity` of `delivery-zones.ts`, over the two functions of the platform's Unicode tables.

* `letters` — the steps on single letters; `stripArticle` and `stripPrefix` take one article and one Latin prefix off.
* `Begins` — a text begins with one of them; `Settled` — the tables leave a folded name as it is.
* **`normaliseCity_projection`** — folding a folded name changes it exactly where that begins with an article or a
  prefix; white space at the ends of other names, letter case and marks are not seen.
* `normaliseCity_twice` — a name of two articles loses one each time, and letters composed late are folded late.
-/

namespace Qift.Market

open Lib

/-- `String.prototype.normalize('NFKC')` and `String.prototype.toLowerCase`. -/
class Unicode where
  normalizeNFKC : String → String
  toLowerCase : String → String

/-! ### The steps -/

/-- Tashkeel and tatweel. -/
def isMark (c : Char) : Bool :=
  (0x064B ≤ c.toNat && c.toNat ≤ 0x0652) || c.toNat = 0x0670 || c.toNat = 0x0640

/-- Alef that carries a hamza is alef. -/
def foldAlef (c : Char) : Char := if c ∈ ['\u0622', '\u0623', '\u0625', '\u0671'] then '\u0627' else c

/-- Alef maksura is yeh. -/
def foldYeh (c : Char) : Char := if c = '\u0649' then '\u064A' else c

/-- Teh marbuta is heh. -/
def foldHeh (c : Char) : Char := if c = '\u0629' then '\u0647' else c

/-- Arabic punctuation and directional marks. -/
def isSign (c : Char) : Bool :=
  c.toNat = 0x061B || c.toNat = 0x061F || c.toNat = 0x060C || c.toNat = 0x200E || c.toNat = 0x200F ||
    (0x202A ≤ c.toNat && c.toNat ≤ 0x202E)

/-- The steps on single letters. -/
def letters (cs : List Char) : List Char :=
  ((((cs.filter fun c => !isMark c).map foldAlef).map foldYeh).map foldHeh).filter fun c => !isSign c

/-- A leading definite article. -/
def stripArticle : List Char → List Char
  | '\u0627' :: '\u0644' :: rest => rest
  | cs => cs

/-- A leading Latin prefix. -/
def stripPrefix : List Char → List Char
  | 'a' :: 'l' :: c :: rest => if c = '-' ∨ isTrimmed c then rest else 'a' :: 'l' :: c :: rest
  | 'e' :: 'l' :: c :: rest => if c = '-' ∨ isTrimmed c then rest else 'e' :: 'l' :: c :: rest
  | 'a' :: 'r' :: '-' :: rest => rest
  | cs => cs

/-- White space collapsed and trimmed. -/
def tidySpace (cs : List Char) : List Char := tidy isTrimmed ' ' cs

section Unicode

variable [Unicode]

/-- The text in its compatibility form and in lower case. -/
def canonicalText (value : String) : List Char :=
  (Unicode.toLowerCase (Unicode.normalizeNFKC value)).toList

def normaliseCity (value : String) : String :=
  String.ofList (tidySpace (stripPrefix (stripArticle (letters (canonicalText value)))))

end Unicode

/-! ### Letters -/

theorem letters_append (xs ys : List Char) : letters (xs ++ ys) = letters xs ++ letters ys := by
  simp [letters, List.filter_append, List.map_append]

/-- A letter that every step leaves as it is. -/
structure Folded (c : Char) : Prop where
  mark : isMark c = false
  alef : foldAlef c = c
  yeh : foldYeh c = c
  heh : foldHeh c = c
  sign : isSign c = false

instance (c : Char) : Decidable (Folded c) :=
  decidable_of_iff (isMark c = false ∧ foldAlef c = c ∧ foldYeh c = c ∧ foldHeh c = c ∧ isSign c = false)
    ⟨fun ⟨h₁, h₂, h₃, h₄, h₅⟩ => ⟨h₁, h₂, h₃, h₄, h₅⟩, fun h => ⟨h.1, h.2, h.3, h.4, h.5⟩⟩

theorem letters_of_folded {cs : List Char} (h : ∀ c ∈ cs, Folded c) : letters cs = cs := by
  induction cs with
  | nil => rfl
  | cons c rest ih =>
      obtain ⟨hmark, halef, hyeh, hheh, hsign⟩ := h c List.mem_cons_self
      have hone : letters [c] = [c] := by
        simp [letters, hmark, halef, hyeh, hheh, hsign]
      have hrest := ih fun d hd => h d (List.mem_cons_of_mem _ hd)
      have hsplit := letters_append [c] rest
      rw [hone, hrest] at hsplit
      exact hsplit

/-- What the steps leave is folded. -/
theorem folded_of_mem_letters {cs : List Char} {c : Char} (h : c ∈ letters cs) : Folded c := by
  obtain ⟨hmem, hsign⟩ := List.mem_filter.mp h
  obtain ⟨d₁, hd₁, rfl⟩ := List.mem_map.mp hmem
  obtain ⟨d₂, hd₂, rfl⟩ := List.mem_map.mp hd₁
  obtain ⟨d, hd, rfl⟩ := List.mem_map.mp hd₂
  have hmark : isMark d = false := by simpa using (List.mem_filter.mp hd).2
  by_cases halef : d ∈ ['\u0622', '\u0623', '\u0625', '\u0671']
  · have hfold : foldAlef d = '\u0627' := if_pos halef
    rw [hfold]
    decide
  · have halef' : foldAlef d = d := if_neg halef
    rw [halef'] at hsign ⊢
    by_cases hyeh : d = '\u0649'
    · subst hyeh
      decide
    · have hyeh' : foldYeh d = d := if_neg hyeh
      rw [hyeh'] at hsign ⊢
      by_cases hheh : d = '\u0629'
      · subst hheh
        decide
      · have hheh' : foldHeh d = d := if_neg hheh
        rw [hheh'] at hsign ⊢
        exact ⟨hmark, halef', hyeh', hheh', by simpa using hsign⟩

/-- White space is folded. -/
theorem folded_of_trimmed {c : Char} (h : isTrimmed c = true) : Folded c := by
  have hne {d : Char} (hd : isTrimmed d = false) : c ≠ d := fun heq => by
    rw [heq, hd] at h
    cases h
  have halef : c ∉ ['\u0622', '\u0623', '\u0625', '\u0671'] := by
    simp only [List.mem_cons, List.not_mem_nil, or_false, not_or]
    exact ⟨hne (by decide), hne (by decide), hne (by decide), hne (by decide)⟩
  have hcode : c.toNat ≤ 0x001F ∨ c.toNat = 0x20 ∨ c.toNat = 0xA0 ∨ 0x1680 ≤ c.toNat ∧ c.toNat ≤ 0x200A ∨
      c.toNat = 0x2028 ∨ c.toNat = 0x2029 ∨ 0x202F ≤ c.toNat := by
    simp only [isTrimmed, Bool.or_eq_true, Bool.and_eq_true, decide_eq_true_iff] at h
    omega
  refine ⟨?_, if_neg halef, if_neg (hne (by decide)), if_neg (hne (by decide)), ?_⟩
  · simp only [isMark, Bool.or_eq_false_iff, Bool.and_eq_false_iff, decide_eq_false_iff_not]
    omega
  · simp only [isSign, Bool.or_eq_false_iff, Bool.and_eq_false_iff, decide_eq_false_iff_not]
    omega

/-! ### Articles and prefixes -/

/-- The text begins with an article or a prefix. -/
def Begins (cs : List Char) : Prop := stripPrefix (stripArticle cs) ≠ cs

instance (cs : List Char) : Decidable (Begins cs) := inferInstanceAs (Decidable (_ ≠ _))

/-- An article is two letters that are taken off. -/
theorem stripArticle_cases (cs : List Char) :
    cs = '\u0627' :: '\u0644' :: stripArticle cs ∨ stripArticle cs = cs := by
  unfold stripArticle
  split
  · exact Or.inl rfl
  · exact Or.inr rfl

/-- A prefix is two Latin letters, with a hyphen or white space behind them. -/
theorem stripPrefix_cases (cs : List Char) :
    (∃ c c' c'', cs = c :: c' :: c'' :: stripPrefix cs ∧ isTrimmed c = false ∧ isTrimmed c' = false ∧
      (c'' = '-' ∨ isTrimmed c'' = true) ∧
      ([c, c'] = ['a', 'l'] ∨ [c, c'] = ['e', 'l'] ∨ [c, c', c''] = ['a', 'r', '-'])) ∨ stripPrefix cs = cs := by
  unfold stripPrefix
  split
  next c rest =>
    split
    next h => exact Or.inl ⟨'a', 'l', c, rfl, by decide, by decide, h, Or.inl rfl⟩
    next => exact Or.inr rfl
  next c rest =>
    split
    next h => exact Or.inl ⟨'e', 'l', c, rfl, by decide, by decide, h, Or.inr (Or.inl rfl)⟩
    next => exact Or.inr rfl
  next rest => exact Or.inl ⟨'a', 'r', '-', rfl, by decide, by decide, Or.inl rfl, Or.inr (Or.inr rfl)⟩
  next => exact Or.inr rfl

/-- The letters of a text that are not white space. -/
def solid (cs : List Char) : List Char := cs.filter fun c => !isTrimmed c

theorem solid_cons (c : Char) (cs : List Char) (h : isTrimmed c = false) : solid (c :: cs) = c :: solid cs :=
  List.filter_cons_of_pos (by simp [h])

theorem length_solid_stripPrefix (cs : List Char) :
    (solid (stripPrefix cs)).length + 2 ≤ (solid cs).length ∨ stripPrefix cs = cs := by
  rcases stripPrefix_cases cs with ⟨c, c', c'', hcs, hc, hc', -, -⟩ | hsame
  · left
    conv_rhs => rw [hcs, solid_cons c _ hc, solid_cons c' _ hc']
    have hle : (solid (stripPrefix cs)).length ≤ (solid (c'' :: stripPrefix cs)).length :=
      ((List.sublist_cons_self c'' _).filter _).length_le
    simp only [List.length_cons]
    omega
  · exact Or.inr hsame

/-- What is taken off is not white space. -/
theorem length_solid_lt {cs : List Char} (h : Begins cs) :
    (solid (stripPrefix (stripArticle cs))).length < (solid cs).length := by
  have hprefix := length_solid_stripPrefix (stripArticle cs)
  rcases stripArticle_cases cs with harticle | hsame
  · have hlength : (solid cs).length = (solid (stripArticle cs)).length + 2 := by
      conv_lhs => rw [harticle, solid_cons _ _ (by decide), solid_cons _ _ (by decide)]
      rfl
    rcases hprefix with hlt | hsame'
    · omega
    · rw [hsame']
      omega
  · rcases hprefix with hlt | hsame'
    · rw [hsame] at hlt ⊢
      omega
    · exact absurd (hsame'.trans hsame) h

theorem begins_article (cs : List Char) : Begins ('\u0627' :: '\u0644' :: cs) := by
  intro h
  have hlt : (solid (stripPrefix cs)).length + 2 ≤ (solid cs).length ∨ stripPrefix cs = cs :=
    length_solid_stripPrefix cs
  have hlength : (solid (stripPrefix cs)).length = (solid ('\u0627' :: '\u0644' :: cs)).length :=
    congrArg (fun xs => (solid xs).length) h
  rw [solid_cons _ _ (by decide), solid_cons _ _ (by decide), List.length_cons, List.length_cons] at hlength
  rcases hlt with hlt | hsame
  · omega
  · rw [hsame] at hlength
    omega

theorem begins_shorter {c c' c'' : Char} (hbehind : c'' = '-' ∨ isTrimmed c'' = true)
    (h : [c, c'] = ['a', 'l'] ∨ [c, c'] = ['e', 'l'] ∨ [c, c', c''] = ['a', 'r', '-']) (cs : List Char) :
    Begins (c :: c' :: c'' :: cs) := by
  have hlonger : cs ≠ c :: c' :: c'' :: cs := fun heq => by
    have hlength := congrArg List.length heq
    simp only [List.length_cons] at hlength
    omega
  have hstrip : stripPrefix (stripArticle (c :: c' :: c'' :: cs)) = cs := by
    rcases h with h | h | h
    · cases h
      exact if_pos hbehind
    · cases h
      exact if_pos hbehind
    · cases h
      rfl
  rw [Begins, hstrip]
  exact hlonger

/-- A text that does not begin with an article or a prefix does not do so between white space, unless it is the prefix
itself. -/
theorem begins_pad {start cs stop : List Char} (hstart : ∀ c ∈ start, isTrimmed c = true)
    (hstop : ∀ c ∈ stop, isTrimmed c = true) (hbegins : ¬Begins cs) (hal : cs ≠ ['a', 'l']) (hel : cs ≠ ['e', 'l']) :
    ¬Begins (start ++ cs ++ stop) := by
  -- a first letter that is not white space is one of the text
  have hfirst {c : Char} {rest : List Char} (hc : isTrimmed c = false) (h : start ++ cs ++ stop = c :: rest) :
      ∃ more, cs = c :: more ∧ more ++ stop = rest := by
    cases start with
    | cons d ds =>
        obtain ⟨rfl, -⟩ := List.cons.inj h
        rw [hstart _ List.mem_cons_self] at hc
        cases hc
    | nil =>
        cases cs with
        | nil =>
            rw [List.nil_append, List.nil_append] at h
            rw [hstop c (h ▸ List.mem_cons_self)] at hc
            cases hc
        | cons d ds =>
            obtain ⟨rfl, hrest⟩ := List.cons.inj h
            exact ⟨ds, rfl, hrest⟩
  have hnext {c : Char} {more rest : List Char} (hc : isTrimmed c = false) (h : more ++ stop = c :: rest) :
      ∃ more', more = c :: more' ∧ more' ++ stop = rest := by
    cases more with
    | nil =>
        rw [List.nil_append] at h
        rw [hstop c (h ▸ List.mem_cons_self)] at hc
        cases hc
    | cons d ds =>
        obtain ⟨rfl, hrest⟩ := List.cons.inj h
        exact ⟨ds, rfl, hrest⟩
  intro h
  rcases stripArticle_cases (start ++ cs ++ stop) with harticle | hsame
  · obtain ⟨more, rfl, hmore⟩ := hfirst (by decide) harticle
    obtain ⟨more', rfl, -⟩ := hnext (by decide) hmore
    exact hbegins (begins_article more')
  · rcases stripPrefix_cases (start ++ cs ++ stop) with ⟨c, c', c'', hcs, hc, hc', hbehind, hletters⟩ | hsame'
    · obtain ⟨more, rfl, hmore⟩ := hfirst hc hcs
      obtain ⟨more', rfl, hmore'⟩ := hnext hc' hmore
      cases more' with
      | nil =>
          rcases hletters with hletters | hletters | hletters
          · exact hal hletters
          · exact hel hletters
          · -- the hyphen is none of the white space
            cases hletters
            have hhyphen : isTrimmed '-' = true := hstop '-' (by
              rw [List.nil_append] at hmore'
              rw [hmore']
              exact List.mem_cons_self)
            exact absurd hhyphen (by decide)
      | cons d ds =>
          obtain ⟨rfl, -⟩ := List.cons.inj hmore'
          exact hbegins (begins_shorter hbehind hletters ds)
    · exact h (by rw [hsame, hsame'])

/-- Taking off leaves letters of the text. -/
theorem mem_of_mem_stripped {cs : List Char} {c : Char} (h : c ∈ stripPrefix (stripArticle cs)) : c ∈ cs := by
  have harticle : c ∈ stripArticle cs := by
    rcases stripPrefix_cases (stripArticle cs) with ⟨_, _, _, hsplit, -⟩ | hsame
    · rw [hsplit]
      exact List.mem_cons_of_mem _ (List.mem_cons_of_mem _ (List.mem_cons_of_mem _ h))
    · rwa [hsame] at h
  rcases stripArticle_cases cs with hsplit | hsame
  · rw [hsplit]
    exact List.mem_cons_of_mem _ (List.mem_cons_of_mem _ harticle)
  · rwa [hsame] at harticle

/-! ### Folding -/

theorem trimmed_space : isTrimmed ' ' = true := by decide

section Projection

variable [Unicode]

/-- The tables leave the folded name as it is. -/
def Settled (value : String) : Prop := canonicalText (normaliseCity value) = (normaliseCity value).toList

instance (value : String) : Decidable (Settled value) := inferInstanceAs (Decidable (_ = _))

/-- White space has no case and composes with nothing. -/
structure Unicode.Spaced : Prop where
  pad : ∀ start s stop : String, (∀ c ∈ start.toList, isTrimmed c = true) → (∀ c ∈ stop.toList, isTrimmed c = true) →
    ∃ start' stop', (∀ c ∈ start', isTrimmed c = true) ∧ (∀ c ∈ stop', isTrimmed c = true) ∧
      canonicalText (start ++ s ++ stop) = start' ++ canonicalText s ++ stop'

theorem toList_normaliseCity (value : String) :
    (normaliseCity value).toList = tidySpace (stripPrefix (stripArticle (letters (canonicalText value)))) :=
  String.toList_ofList

/-- The letters of a folded name are folded. -/
theorem letters_normaliseCity (value : String) :
    letters (normaliseCity value).toList = (normaliseCity value).toList := by
  apply letters_of_folded
  intro c hc
  rw [toList_normaliseCity] at hc
  rcases mem_tidy hc with rfl | hc
  · exact folded_of_trimmed trimmed_space
  · exact folded_of_mem_letters (mem_of_mem_stripped hc)

/-- A folded name is folded again by what is taken off it. -/
theorem normaliseCity_settled {value : String} (h : Settled value) :
    (normaliseCity (normaliseCity value)).toList =
      tidySpace (stripPrefix (stripArticle (normaliseCity value).toList)) := by
  rw [toList_normaliseCity (normaliseCity value), h, letters_normaliseCity]

theorem tidySpace_normaliseCity (value : String) :
    tidySpace (normaliseCity value).toList = (normaliseCity value).toList := by
  rw [toList_normaliseCity]
  exact tidy_tidy trimmed_space _

theorem normaliseCity_twice_iff {value : String} (h : Settled value) :
    normaliseCity (normaliseCity value) = normaliseCity value ↔ ¬Begins (normaliseCity value).toList := by
  rw [← String.toList_inj, normaliseCity_settled h]
  constructor
  · intro hsame hbegins
    -- what is taken off is missed
    have hsolid := filter_tidy trimmed_space
      (stripPrefix (stripArticle (normaliseCity value).toList))
    change solid (tidySpace _) = solid _ at hsolid
    rw [hsame] at hsolid
    have hlt := length_solid_lt hbegins
    rw [← hsolid] at hlt
    exact lt_irrefl _ hlt
  · intro hbegins
    rw [not_not.mp hbegins]
    exact tidySpace_normaliseCity value

theorem normaliseCity_pad (hspaced : Unicode.Spaced) {value : String}
    (hbegins : ¬Begins (letters (canonicalText value)))
    (halone : letters (canonicalText value) ∉ [['a', 'l'], ['e', 'l']]) {start stop : String}
    (hstart : ∀ c ∈ start.toList, isTrimmed c = true) (hstop : ∀ c ∈ stop.toList, isTrimmed c = true) :
    normaliseCity (start ++ value ++ stop) = normaliseCity value := by
  obtain ⟨start', stop', hstart', hstop', hpad⟩ := hspaced.pad start value stop hstart hstop
  simp only [List.mem_cons, List.not_mem_nil, or_false, not_or] at halone
  obtain ⟨hal, hel⟩ := halone
  have hletters : letters (canonicalText (start ++ value ++ stop)) =
      start' ++ letters (canonicalText value) ++ stop' := by
    rw [hpad, letters_append, letters_append, letters_of_folded fun c hc => folded_of_trimmed (hstart' c hc),
      letters_of_folded fun c hc => folded_of_trimmed (hstop' c hc)]
  have hpadded := not_not.mp (begins_pad hstart' hstop' hbegins hal hel)
  rw [← String.toList_inj, toList_normaliseCity, toList_normaliseCity, hletters, hpadded, not_not.mp hbegins]
  exact tidy_pad trimmed_space _ hstart' hstop'

/-- **Folding place names.** Folding a folded name that the tables leave as it is changes it exactly where it begins
with an article or a prefix; white space at the ends of names that do not is not seen, nor is letter case, nor are
marks that the tables pass over; and where names are folded once, the folded form may be stored for the name. -/
theorem normaliseCity_projection (hspaced : Unicode.Spaced) :
    (∀ value, Settled value →
      (normaliseCity (normaliseCity value) = normaliseCity value ↔ ¬Begins (normaliseCity value).toList)) ∧
    (∀ value, ¬Begins (letters (canonicalText value)) → letters (canonicalText value) ∉ [['a', 'l'], ['e', 'l']] →
      ∀ start stop : String, (∀ c ∈ start.toList, isTrimmed c = true) → (∀ c ∈ stop.toList, isTrimmed c = true) →
        normaliseCity (start ++ value ++ stop) = normaliseCity value) ∧
    (∀ value value', Unicode.toLowerCase (Unicode.normalizeNFKC value) =
      Unicode.toLowerCase (Unicode.normalizeNFKC value') → normaliseCity value = normaliseCity value') ∧
    (∀ value value',
      ((canonicalText value).filter fun c => !isMark c) = (canonicalText value').filter (fun c => !isMark c) →
      normaliseCity value = normaliseCity value') ∧
    Equivalence (fun value value' => normaliseCity value = normaliseCity value') ∧
    ∀ value value', Settled value → ¬Begins (normaliseCity value).toList →
      (normaliseCity (normaliseCity value) = normaliseCity value' ↔ normaliseCity value = normaliseCity value') := by
  refine ⟨fun value h => normaliseCity_twice_iff h, fun value hbegins halone start stop => ?_, fun value value' h => ?_,
    fun value value' h => ?_, ⟨fun _ => rfl, Eq.symm, Eq.trans⟩, fun value value' h hbegins => ?_⟩
  · exact normaliseCity_pad hspaced hbegins halone
  · unfold normaliseCity canonicalText
    rw [h]
  · unfold normaliseCity letters
    rw [h]
  · rw [(normaliseCity_twice_iff h).mpr hbegins]

end Projection

/-! ### Three names -/

/-- The two functions of the tables are idempotent. -/
def Unicode.Idempotent (u : Unicode) : Prop :=
  (∀ s, u.normalizeNFKC (u.normalizeNFKC s) = u.normalizeNFKC s) ∧
    ∀ s, u.toLowerCase (u.toLowerCase s) = u.toLowerCase s

namespace Pilot

/-- Letters without case and without a compatibility form. -/
@[reducible] def plainLetters : Unicode := ⟨id, id⟩

/-- Alef and a hamza above it compose. -/
def compose : List Char → List Char
  | '\u0627' :: '\u0654' :: rest => '\u0623' :: compose rest
  | c :: rest => c :: compose rest
  | [] => []

/-- Letters of which some compose. -/
@[reducible] def composed : Unicode := ⟨fun s => String.ofList (compose s.toList), id⟩

theorem plainLetters_spaced : @Unicode.Spaced plainLetters := by
  refine @Unicode.Spaced.mk plainLetters fun start s stop hstart hstop => ⟨start.toList, stop.toList, hstart, hstop, ?_⟩
  change (start ++ s ++ stop).toList = start.toList ++ s.toList ++ stop.toList
  rw [String.toList_append, String.toList_append]

/-- Composing leaves a hamza in front only where it stood there. -/
theorem compose_head {cs rest : List Char} (h : compose cs = '\u0654' :: rest) : ∃ rest', cs = '\u0654' :: rest' := by
  unfold compose at h
  split at h
  · cases h
  · obtain ⟨rfl, -⟩ := List.cons.inj h
    exact ⟨_, rfl⟩
  · cases h

theorem compose_compose (cs : List Char) : compose (compose cs) = compose cs := by
  fun_induction compose cs with
  | case1 rest ih =>
      rw [compose, ih]
      exact fun _ h => absurd h (by decide)
  | case2 c rest hpair ih =>
      rw [compose, ih]
      rintro more hc hmore
      obtain ⟨rest', rfl⟩ := compose_head hmore
      exact hpair rest' hc rfl
  | case3 => rfl

theorem composed_idempotent : composed.Idempotent := by
  refine ⟨fun s => ?_, fun _ => rfl⟩
  change String.ofList (compose (String.ofList (compose s.toList)).toList) = String.ofList (compose s.toList)
  rw [String.toList_ofList, compose_compose]

end Pilot

/-- Jeddah is folded once. -/
theorem normaliseCity_projection_jeddah :
    @normaliseCity Pilot.plainLetters (@normaliseCity Pilot.plainLetters "جدة") =
      @normaliseCity Pilot.plainLetters "جدة" :=
  ((@normaliseCity_projection Pilot.plainLetters Pilot.plainLetters_spaced).1 "جدة" (by decide +kernel)).mpr
    (by decide +kernel)

/-- **A name that is folded twice**: one article is taken off each time; and where a tatweel keeps a hamza from its
alef, the two are one letter only once it is taken off. -/
theorem normaliseCity_twice :
    (∃ u : Unicode, u.Idempotent ∧
      @normaliseCity u (@normaliseCity u "الألماس") ≠ @normaliseCity u "الألماس") ∧
    ∃ u : Unicode, u.Idempotent ∧
      @normaliseCity u (@normaliseCity u "\u0627\u0640\u0654") ≠ @normaliseCity u "\u0627\u0640\u0654" ∧
      @normaliseCity u "\u0627\u0640\u0654" ≠ @normaliseCity u "\u0627\u0654" :=
  ⟨⟨Pilot.plainLetters, ⟨fun _ => rfl, fun _ => rfl⟩, by decide +kernel⟩, Pilot.composed, Pilot.composed_idempotent,
    by decide +kernel, by decide +kernel⟩

end Qift.Market
