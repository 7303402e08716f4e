import Qift.Campaigns.Roster

/-!
# The headers of a roster file

Two vocabularies are matched against the same normalized text: the names of the columns that are read, and the fragments
of an address column.

* `aliases_clear` — they overlap in one name.
* `planHeaders_forbidden` — a header with a fragment refuses the file.
* `Planned.snoc` — what one more column does to the plan of columns that are all known.
* **`planHeaders_spec`** — a row of known names with a name column and a contact column is planned: each field is read from
  its first column.
-/

namespace Qift.Campaigns

/-- The field that a header names. -/
def headerField (raw : String) : Option RosterField := HEADER_ALIASES.lookup (normalizeHeader raw)

/-- The header of an address column. -/
def isForbidden (raw : String) : Bool := FORBIDDEN_HEADER_FRAGMENTS.any fun f => includes (normalizeHeader raw) f

/-- The field that the header at an index names. -/
def fieldAt (header : List String) (idx : Nat) : Option RosterField := header[idx]?.bind headerField

/-! ### The two vocabularies -/

theorem aliases_clear : ∀ a ∈ HEADER_ALIASES, a.1 ≠ "email address" →
    (FORBIDDEN_HEADER_FRAGMENTS.any fun f => includes a.1 f) = false := by
  decide +kernel

theorem aliases_nonempty : ∀ a ∈ HEADER_ALIASES, a.1 ≠ "" := by
  decide +kernel

theorem mem_of_lookup {τ : Type} {table : List (String × τ)} {key : String} {value : τ}
    (h : table.lookup key = some value) : (key, value) ∈ table := by
  induction table with
  | nil => cases h
  | cons entry table ih =>
      obtain ⟨k, v⟩ := entry
      by_cases hkey : key = k
      · subst hkey
        rw [List.lookup_cons_self] at h
        obtain rfl := Option.some.inj h
        exact List.mem_cons_self
      · have hne : (key == k) = false := by simpa using hkey
        rw [List.lookup_cons, hne] at h
        exact List.mem_cons_of_mem _ (ih h)

variable {raw : String} {field : RosterField}

theorem mem_aliases (h : headerField raw = some field) : (normalizeHeader raw, field) ∈ HEADER_ALIASES := mem_of_lookup h

theorem normalizeHeader_ne_empty (h : headerField raw = some field) : normalizeHeader raw ≠ "" :=
  aliases_nonempty (normalizeHeader raw, field) (mem_aliases h)

theorem not_isForbidden (h : headerField raw = some field) (hclear : normalizeHeader raw ≠ "email address") :
    isForbidden raw = false := by
  have hfree := aliases_clear (normalizeHeader raw, field) (mem_aliases h) hclear
  dsimp only at hfree
  rw [isForbidden, hfree]

/-! ### Address columns -/

theorem forbidden_column (plan : HeaderPlan) (raw : String) (idx : Nat) :
    (plan.column (raw, idx)).forbidden = plan.forbidden ++ if isForbidden raw then [trim raw] else [] := by
  unfold HeaderPlan.column
  dsimp only
  split
  · rename_i hempty
    have hclear : isForbidden raw = false := by
      rw [isForbidden, hempty]
      decide
    rw [hclear]
    simp
  · split
    · rename_i hforbidden
      have hraw : isForbidden raw = true := hforbidden
      rw [hraw]
      rfl
    · rename_i hforbidden
      have hraw : isForbidden raw = false := eq_false_of_ne_true hforbidden
      rw [hraw]
      split <;> simp

theorem forbidden_foldl (plan : HeaderPlan) (columns : List (String × Nat)) :
    (columns.foldl HeaderPlan.column plan).forbidden =
      plan.forbidden ++ ((columns.map Prod.fst).filter isForbidden).map trim := by
  induction columns generalizing plan with
  | nil => simp
  | cons column columns ih =>
      obtain ⟨raw, idx⟩ := column
      rw [List.foldl_cons, ih, forbidden_column, List.append_assoc]
      cases h : isForbidden raw <;> simp [h]

theorem map_fst_zipIdx (header : List String) : header.zipIdx.map Prod.fst = header := List.zipIdx_map_fst 0 header

/-- A header with a fragment refuses the file, and all such headers are named. -/
theorem planHeaders_forbidden {header : List String} (hraw : raw ∈ header) (h : isForbidden raw = true) :
    planHeaders header = .error ⟨"roster_address_columns_forbidden", (header.filter isForbidden).map trim⟩ := by
  have hforbidden := forbidden_foldl ⟨[], [], []⟩ header.zipIdx
  rw [map_fst_zipIdx, List.nil_append] at hforbidden
  have hsome : (header.filter isForbidden).map trim ≠ [] := by
    intro hnone
    rw [List.map_eq_nil_iff, List.filter_eq_nil_iff] at hnone
    exact hnone raw hraw h
  unfold planHeaders
  dsimp only
  rw [hforbidden, if_pos hsome]

/-! ### Known columns -/

/-- What is planned for known columns: the first one of each field is mapped, and those that are not are reported. -/
structure Planned (header : List String) (plan : HeaderPlan) : Prop where
  forbidden : plan.forbidden = []
  mapping : ∀ idx field, (idx, field) ∈ plan.mapping ↔
    fieldAt header idx = some field ∧ ∀ j < idx, fieldAt header j ≠ some field
  ignoredColumns : plan.ignoredColumns =
    (header.zipIdx.filter fun c => !plan.mapping.any fun m => m.1 = c.2).map fun c => trim c.1

theorem Planned.nil : Planned [] ⟨[], [], []⟩ where
  forbidden := rfl
  mapping := fun idx field => by simp [fieldAt]
  ignoredColumns := rfl

section Snoc

variable {header : List String} {plan : HeaderPlan}

theorem fieldAt_lt {idx : Nat} (h : fieldAt header idx = some field) : idx < header.length := by
  by_contra hout
  rw [fieldAt, List.getElem?_eq_none (not_lt.mp hout)] at h
  cases h

theorem fieldAt_snoc_of_lt {idx : Nat} (h : idx < header.length) : fieldAt (header ++ [raw]) idx = fieldAt header idx := by
  rw [fieldAt, fieldAt, List.getElem?_append_left h]

theorem fieldAt_snoc_self : fieldAt (header ++ [raw]) header.length = headerField raw := by
  rw [fieldAt, List.getElem?_append_right le_rfl, Nat.sub_self]
  rfl

theorem Planned.mem_fields (h : Planned header plan) :
    field ∈ plan.mapping.map Prod.snd ↔ ∃ idx, fieldAt header idx = some field := by
  constructor
  · intro hfield
    obtain ⟨⟨idx, field'⟩, hmem, rfl⟩ := List.mem_map.mp hfield
    exact ⟨idx, ((h.mapping idx field').mp hmem).1⟩
  · intro hexists
    classical
    -- the first column that has it
    have hfirst := Nat.find_spec hexists
    refine List.mem_map.mpr ⟨(Nat.find hexists, field), ?_, rfl⟩
    exact (h.mapping _ _).mpr ⟨hfirst, fun j hj => Nat.find_min hexists hj⟩

/-- The last column is the only one that the header without it does not have. -/
theorem eq_length_of_fieldAt {idx : Nat} (h : fieldAt (header ++ [raw]) idx = some field) (hidx : ¬idx < header.length) :
    idx = header.length := by
  have hlt := fieldAt_lt h
  simp only [List.length_append, List.length_singleton] at hlt
  omega

theorem column_known (plan : HeaderPlan) (idx : Nat) (hfield : headerField raw = some field)
    (hclear : normalizeHeader raw ≠ "email address") :
    plan.column (raw, idx) =
      if field ∈ plan.mapping.map Prod.snd then { plan with ignoredColumns := plan.ignoredColumns ++ [trim raw] }
      else { plan with mapping := plan.mapping ++ [(idx, field)] } := by
  have hnot : (FORBIDDEN_HEADER_FRAGMENTS.any fun f => includes (normalizeHeader raw) f) = false :=
    not_isForbidden hfield hclear
  have hlookup : HEADER_ALIASES.lookup (normalizeHeader raw) = some field := hfield
  simp only [HeaderPlan.column, if_neg (normalizeHeader_ne_empty hfield), hnot, hlookup, Bool.false_eq_true, if_false]
  by_cases hseen : field ∈ plan.mapping.map Prod.snd
  · simp [Option.filter, hseen]
  · simp [Option.filter, hseen]

theorem Planned.lt_length (h : Planned header plan) {m : Nat × RosterField} (hm : m ∈ plan.mapping) :
    m.1 < header.length := by
  obtain ⟨idx, f⟩ := m
  exact fieldAt_lt ((h.mapping idx f).mp hm).1

/-- The columns before the last keep their fields. -/
theorem Planned.mapping_snoc (h : Planned header plan) {idx : Nat} (hidx : idx < header.length) :
    (fieldAt (header ++ [raw]) idx = some field ∧ ∀ j < idx, fieldAt (header ++ [raw]) j ≠ some field) ↔
      (idx, field) ∈ plan.mapping := by
  rw [h.mapping, fieldAt_snoc_of_lt hidx]
  refine and_congr_right fun _ => forall₂_congr fun j hj => ?_
  rw [fieldAt_snoc_of_lt (hj.trans hidx)]

theorem Planned.snoc_seen (h : Planned header plan) (hfield : headerField raw = some field)
    (hseen : field ∈ plan.mapping.map Prod.snd) :
    Planned (header ++ [raw]) { plan with ignoredColumns := plan.ignoredColumns ++ [trim raw] } where
  forbidden := h.forbidden
  mapping idx f := by
    by_cases hidx : idx < header.length
    · exact (h.mapping_snoc hidx).symm
    · constructor
      · exact fun hmem => absurd (h.lt_length hmem) hidx
      · rintro ⟨hat, hfirst⟩
        have hlast := eq_length_of_fieldAt hat hidx
        rw [hlast, fieldAt_snoc_self, hfield, Option.some.injEq] at hat
        obtain ⟨j, hj⟩ := h.mem_fields.mp hseen
        have hearlier := hfirst j (by rw [hlast]; exact fieldAt_lt hj)
        rw [fieldAt_snoc_of_lt (fieldAt_lt hj), hj, hat] at hearlier
        exact absurd rfl hearlier
  ignoredColumns := by
    have hfree : (plan.mapping.any fun m => m.1 = header.length) = false := by
      rw [List.any_eq_false]
      intro m hm hsame
      have hlt := h.lt_length hm
      simp only [decide_eq_true_eq] at hsame
      omega
    rw [List.zipIdx_append, List.filter_append, List.map_append, ← h.ignoredColumns]
    simp [hfree]

theorem Planned.snoc_new (h : Planned header plan) (hfield : headerField raw = some field)
    (hseen : field ∉ plan.mapping.map Prod.snd) :
    Planned (header ++ [raw]) { plan with mapping := plan.mapping ++ [(header.length, field)] } where
  forbidden := h.forbidden
  mapping idx f := by
    rw [List.mem_append, List.mem_singleton, Prod.mk.injEq]
    by_cases hidx : idx < header.length
    · rw [h.mapping_snoc hidx]
      constructor
      · rintro (hmem | ⟨hsame, -⟩)
        · exact hmem
        · omega
      · exact Or.inl
    · constructor
      · rintro (hmem | ⟨rfl, rfl⟩)
        · exact absurd (h.lt_length hmem) hidx
        · refine ⟨by rw [fieldAt_snoc_self, hfield], fun j hj hearlier => ?_⟩
          rw [fieldAt_snoc_of_lt hj] at hearlier
          exact hseen (h.mem_fields.mpr ⟨j, hearlier⟩)
      · rintro ⟨hat, -⟩
        have hlast := eq_length_of_fieldAt hat hidx
        rw [hlast, fieldAt_snoc_self, hfield, Option.some.injEq] at hat
        exact .inr ⟨hlast, hat.symm⟩
  ignoredColumns := by
    have hkept : (header.zipIdx.filter fun c => !(plan.mapping ++ [(header.length, field)]).any fun m => m.1 = c.2) =
        header.zipIdx.filter fun c => !plan.mapping.any fun m => m.1 = c.2 := by
      refine List.filter_congr fun c hc => ?_
      have hlt : c.2 < header.length := by
        have hbound := List.snd_lt_of_mem_zipIdx hc
        omega
      have hne : ¬header.length = c.2 := by omega
      simp [List.any_append, hne]
    rw [List.zipIdx_append, List.filter_append, List.map_append, hkept, ← h.ignoredColumns]
    simp

theorem Planned.snoc (h : Planned header plan) (hfield : headerField raw = some field)
    (hclear : normalizeHeader raw ≠ "email address") : Planned (header ++ [raw]) (plan.column (raw, header.length)) := by
  rw [column_known plan header.length hfield hclear]
  split
  · rename_i hseen
    exact h.snoc_seen hfield hseen
  · rename_i hseen
    exact h.snoc_new hfield hseen

end Snoc

theorem planned_foldl {header : List String} (h : ∀ raw ∈ header, (headerField raw).isSome = true ∧
    normalizeHeader raw ≠ "email address") : Planned header (header.zipIdx.foldl HeaderPlan.column ⟨[], [], []⟩) := by
  induction header using List.reverseRecOn with
  | nil => exact Planned.nil
  | append_singleton header raw ih =>
      obtain ⟨hknown, hclear⟩ := h raw (by simp)
      obtain ⟨field, hfield⟩ := Option.isSome_iff_exists.mp hknown
      have hplanned := (ih fun r hr => h r (List.mem_append_left _ hr)).snoc hfield hclear
      rw [List.zipIdx_append, List.foldl_append]
      simpa using hplanned

/-- **Known columns are planned, and an address column refuses the file.**  With a column for the name and one for a
contact, each field is read from its first column and the columns that repeat a field are reported; a header that is not
known and has the fragment of an address column refuses the file, with all such headers. -/
theorem planHeaders_spec (header : List String) :
    ((∀ raw ∈ header, (headerField raw).isSome = true ∧ normalizeHeader raw ≠ "email address") →
      (∃ idx, fieldAt header idx = some .fullName) →
      (∃ idx, fieldAt header idx = some .email ∨ fieldAt header idx = some .phone) →
      ∃ plan, planHeaders header = .ok plan ∧ Planned header plan) ∧
    ∀ raw ∈ header, headerField raw = none → isForbidden raw = true →
      planHeaders header = .error ⟨"roster_address_columns_forbidden", (header.filter isForbidden).map trim⟩ := by
  refine ⟨fun hknown hname hcontact => ?_, fun raw hraw _ hforbidden => planHeaders_forbidden hraw hforbidden⟩
  have hplanned := planned_foldl hknown
  refine ⟨_, ?_, hplanned⟩
  have hseen : ¬(RosterField.fullName ∉ (header.zipIdx.foldl HeaderPlan.column ⟨[], [], []⟩).mapping.map Prod.snd ∨
      (RosterField.email ∉ (header.zipIdx.foldl HeaderPlan.column ⟨[], [], []⟩).mapping.map Prod.snd ∧
        RosterField.phone ∉ (header.zipIdx.foldl HeaderPlan.column ⟨[], [], []⟩).mapping.map Prod.snd)) := by
    rw [hplanned.mem_fields, hplanned.mem_fields, hplanned.mem_fields]
    rintro (hnone | ⟨hemail, hphone⟩)
    · exact hnone hname
    · obtain ⟨idx, hidx | hidx⟩ := hcontact
      · exact hemail ⟨idx, hidx⟩
      · exact hphone ⟨idx, hidx⟩
  unfold planHeaders
  dsimp only
  rw [if_neg (not_not.mpr hplanned.forbidden), if_neg hseen]

/-- Columns in two languages and their own order. -/
theorem planHeaders_spec_mixed : (∃ plan, planHeaders [" Mobile_Number", "اسم  الموظف", "DEPT"] = .ok plan ∧
      Planned [" Mobile_Number", "اسم  الموظف", "DEPT"] plan) ∧
    planHeaders ["Name", "Phone", "Home-Address"] =
      .error ⟨"roster_address_columns_forbidden", ["Home-Address"]⟩ := by
  constructor
  · exact (planHeaders_spec _).1 (by decide +kernel) ⟨1, by decide +kernel⟩ ⟨0, .inr (by decide +kernel)⟩
  · have hnamed : (["Name", "Phone", "Home-Address"].filter isForbidden).map trim = ["Home-Address"] := by decide +kernel
    have hrefused := (planHeaders_spec ["Name", "Phone", "Home-Address"]).2 "Home-Address" (by decide) (by decide +kernel)
      (by decide +kernel)
    rwa [hnamed] at hrefused

/-- Of two names of one field only the first is mapped. -/
theorem planHeaders_not_all : ¬∀ header : List String, (∀ raw ∈ header, (headerField raw).isSome = true) →
    (header.map normalizeHeader).Nodup →
    (∃ idx, fieldAt header idx = some .email ∨ fieldAt header idx = some .phone) →
    ∃ plan, planHeaders header = .ok plan ∧ ∀ idx field, fieldAt header idx = some field → (idx, field) ∈ plan.mapping := by
  intro h
  obtain ⟨plan, hplan, hmapped⟩ := h ["name", "full name", "email"] (by decide +kernel) (by decide +kernel)
    ⟨2, .inl (by decide +kernel)⟩
  have hfirst : planHeaders ["name", "full name", "email"] =
      .ok ⟨[(0, .fullName), (2, .email)], ["full name"], []⟩ := by decide +kernel
  obtain rfl := Except.ok.inj (hfirst.symm.trans hplan)
  have hsecond := hmapped 1 .fullName (by decide +kernel)
  exact absurd hsecond (by decide)

end Qift.Campaigns
