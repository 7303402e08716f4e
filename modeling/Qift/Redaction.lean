import Qift.Canonical
import Qift.Market.Folding

/-!
# Redacted metadata

`stripSensitive` of `financial-ledger.service.ts` and `stripPii` of `audit.service.ts`: one recursion over the keys that
are left out. The members of an object stand in property order.

* `Json.reach` — what a path of keys and indices reaches in a value.
* `Redacted` — no object at any depth has a key that is left out, everything else is as before, and a second pass changes
  nothing.
* `reach_stripKeys` — what a path reaches in a redacted value.
* **`strip_redacted`** — both redact exactly the values in which no object that is kept has a member `__proto__`: to assign
  that key sets a prototype.
-/

namespace Qift

/-! ### Values -/

theorem Json.induct {P : Json → Prop} (null : P .null) (bool : ∀ b, P (.bool b)) (num : ∀ x, P (.num x))
    (str : ∀ s, P (.str s)) (arr : ∀ values, (∀ v ∈ values, P v) → P (.arr values))
    (obj : ∀ members, (∀ m ∈ members, P m.2) → P (.obj members)) (v : Json) : P v :=
  match v with
  | .null => null
  | .bool b => bool b
  | .num x => num x
  | .str s => str s
  | .arr values => arr values fun v _ => Json.induct null bool num str arr obj v
  | .obj members => obj members fun m _ => Json.induct null bool num str arr obj m.2
termination_by sizeOf v
decreasing_by
  · have hmem := List.sizeOf_lt_of_mem ‹_›
    simp only [Json.arr.sizeOf_spec]
    omega
  · have hmem := List.sizeOf_lt_of_mem ‹_›
    obtain ⟨key, v⟩ := m
    simp only [Json.obj.sizeOf_spec, Prod.mk.sizeOf_spec] at hmem ⊢
    omega

/-- A step into an object or an array. -/
inductive Json.Step
  | key (key : String)
  | index (i : Nat)

/-- What stands one step below a value. -/
def Json.child : Json → Json.Step → Option Json
  | .obj members, .key key => members.lookup key
  | .arr values, .index i => values[i]?
  | _, _ => none

def Json.reach : Json → List Json.Step → Option Json
  | v, [] => some v
  | v, s :: path => (v.child s).bind fun u => u.reach path

end Qift

namespace Qift.Redaction

open Market

/-! ### The recursion -/

/-- `out[key] = value` on an object: `__proto__` sets its prototype, any other key a member. -/
def assign (out : List (String × Json)) (key : String) (value : Json) : List (String × Json) :=
  if key = "__proto__" then out
  else if key ∈ out.map Prod.fst then out.map fun m => if m.1 = key then (key, value) else m
  else out ++ [(key, value)]

mutual

/-- A value without the keys that are left out, at any depth. -/
def stripKeys (denied : String → Bool) : Json → Json
  | .null => .null
  | .bool b => .bool b
  | .num x => .num x
  | .str s => .str s
  | .arr values => .arr (stripValues denied values)
  | .obj members => .obj (stripMembers denied members [])

def stripValues (denied : String → Bool) : List Json → List Json
  | [] => []
  | v :: rest => stripKeys denied v :: stripValues denied rest

/-- The loop over the entries of an object; `out` is the copy so far. -/
def stripMembers (denied : String → Bool) : List (String × Json) → List (String × Json) → List (String × Json)
  | [], out => out
  | (key, v) :: rest, out =>
      if denied key then stripMembers denied rest out
      else stripMembers denied rest (assign out key (stripKeys denied v))

end

section Denylists

variable [Unicode]

/-- The keys that must never reach the ledger. -/
def SENSITIVE_METADATA_KEYS : List String :=
  ["address", "addressline", "addressline1", "addressline2", "line1", "line2", "street", "building", "buildingnumber",
    "district", "neighborhood", "city", "region", "postalcode", "zip", "phone", "phonenumber", "mobile",
    "recipientaddress", "recipientphone", "lat", "lng", "latitude", "longitude", "coordinates", "geo"].map
    Unicode.toLowerCase

/-- `SENSITIVE_METADATA_KEYS.has(k.toLowerCase())`. -/
def isSensitive (key : String) : Bool := SENSITIVE_METADATA_KEYS.contains (Unicode.toLowerCase key)

def stripSensitive (value : Json) : Json := stripKeys isSensitive value

/-- `null` and `undefined` are no metadata. -/
def sanitizeLedgerMetadata (metadata : Option Json) : Option Json := metadata.map stripSensitive

/-- The keys that must never reach a guaranteed audit. -/
def PII_DENYLIST : List String :=
  ["recipientname", "name", "phone", "phonenumber", "email", "address", "addressline", "city", "district", "lat", "lng",
    "location", "note", "giftmessage"]

/-- `PII_DENYLIST.has(k.toLowerCase())`. -/
def isPii (key : String) : Bool := PII_DENYLIST.contains (Unicode.toLowerCase key)

def stripPii (value : Json) : Json := stripKeys isPii value

end Denylists

/-! ### What is left -/

section Strip

variable {denied : String → Bool} {finite : Set ℚ} {members : List (String × Json)} {v : Json}

theorem stripValues_eq_map (values : List Json) : stripValues denied values = values.map (stripKeys denied) := by
  induction values with
  | nil => rfl
  | cons v rest ih => rw [stripValues, ih, List.map_cons]

/-- A key whose member is copied. -/
def copies (denied : String → Bool) (key : String) : Bool := !denied key && key ≠ "__proto__"

/-- The members of the copy. -/
def copied (denied : String → Bool) (members : List (String × Json)) : List (String × Json) :=
  (members.filter fun m => copies denied m.1).map fun m => (m.1, stripKeys denied m.2)

theorem copied_cons (m : String × Json) (rest : List (String × Json)) : copied denied (m :: rest) =
    if copies denied m.1 = true then (m.1, stripKeys denied m.2) :: copied denied rest else copied denied rest := by
  rw [copied, List.filter_cons]
  split
  · rfl
  · rfl

/-- What the loop adds to the copy so far. -/
theorem stripMembers_eq {out : List (String × Json)} (h : (out.map Prod.fst ++ members.map Prod.fst).Nodup) :
    stripMembers denied members out = out ++ copied denied members := by
  induction members generalizing out with
  | nil => exact (List.append_nil out).symm
  | cons m rest ih =>
      obtain ⟨key, v⟩ := m
      have hrest : (out.map Prod.fst ++ rest.map Prod.fst).Nodup :=
        h.sublist (List.Sublist.append_left (List.sublist_cons_self ..) _)
      rw [stripMembers, copied_cons]
      by_cases hdenied : denied key = true
      · rw [if_pos hdenied, ih hrest, if_neg (by simp [copies, hdenied])]
      · rw [if_neg hdenied]
        by_cases hproto : key = "__proto__"
        · rw [assign, if_pos hproto, ih hrest, if_neg (by simp [copies, hproto])]
        · have hnew : key ∉ out.map Prod.fst := fun hmem =>
            (List.nodup_append.mp h).2.2 key hmem key List.mem_cons_self rfl
          have hcopies : copies denied key = true := by simp [copies, hdenied, hproto]
          rw [assign, if_neg hproto, if_neg hnew, ih (by simpa using h), if_pos hcopies, List.append_assoc]
          rfl

theorem stripKeys_arr (values : List Json) :
    stripKeys denied (.arr values) = .arr (values.map (stripKeys denied)) := by
  rw [stripKeys, stripValues_eq_map]

theorem stripKeys_obj (h : (members.map Prod.fst).Nodup) :
    stripKeys denied (.obj members) = .obj (copied denied members) := by
  rw [stripKeys, stripMembers_eq (by simpa using h), List.nil_append]

theorem copied_keys (denied : String → Bool) (members : List (String × Json)) :
    (copied denied members).map Prod.fst = (members.map Prod.fst).filter (copies denied) := by
  rw [copied, List.map_map, List.filter_map]
  rfl

theorem of_mem_copied {m : String × Json} (h : m ∈ copied denied members) :
    copies denied m.1 = true ∧ ∃ m' ∈ members, m'.1 = m.1 ∧ stripKeys denied m'.2 = m.2 := by
  obtain ⟨m', hm', rfl⟩ := List.mem_map.mp h
  obtain ⟨hmem, hcopies⟩ := List.mem_filter.mp hm'
  exact ⟨hcopies, m', hmem, rfl, rfl⟩

theorem stripKeys_wellFormed (hv : v.WellFormed finite) : (stripKeys denied v).WellFormed finite := by
  induction v using Json.induct with
  | null | bool | num | str => exact hv
  | arr values ih =>
      rw [Json.WellFormed, Json.wellFormedValues_iff] at hv
      rw [stripKeys_arr, Json.WellFormed, Json.wellFormedValues_iff]
      intro u hu
      obtain ⟨w, hw, rfl⟩ := List.mem_map.mp hu
      exact ih w hw (hv w hw)
  | obj members ih =>
      obtain ⟨hkeys, hvalues⟩ := hv
      rw [Json.wellFormedMembers_iff] at hvalues
      rw [stripKeys_obj hkeys, Json.WellFormed, Json.wellFormedMembers_iff, copied_keys]
      refine ⟨hkeys.filter _, fun m hm => ?_⟩
      obtain ⟨-, m', hm', -, heq⟩ := of_mem_copied hm
      rw [← heq]
      exact ih m' hm' (hvalues m' hm')

/-- A second pass changes nothing. -/
theorem stripKeys_stripKeys (hv : v.WellFormed finite) :
    stripKeys denied (stripKeys denied v) = stripKeys denied v := by
  induction v using Json.induct with
  | null | bool | num | str => rfl
  | arr values ih =>
      rw [Json.WellFormed, Json.wellFormedValues_iff] at hv
      rw [stripKeys_arr, stripKeys_arr, List.map_map]
      exact congrArg Json.arr (List.map_congr_left fun u hu => ih u hu (hv u hu))
  | obj members ih =>
      obtain ⟨hkeys, hvalues⟩ := hv
      rw [Json.wellFormedMembers_iff] at hvalues
      have hcopied : ((copied denied members).map Prod.fst).Nodup := by
        rw [copied_keys]
        exact hkeys.filter _
      rw [stripKeys_obj hkeys, stripKeys_obj hcopied]
      refine congrArg Json.obj ?_
      -- every member of the copy is copied again
      have hall : (copied denied members).filter (fun m => copies denied m.1) = copied denied members :=
        List.filter_eq_self.mpr fun m hm => (of_mem_copied hm).1
      have hsame (m : String × Json) (hm : m ∈ copied denied members) : (m.1, stripKeys denied m.2) = m := by
        obtain ⟨-, m', hm', -, heq⟩ := of_mem_copied hm
        rw [← heq, ih m' hm' (hvalues m' hm'), heq]
      rw [copied, hall, List.map_congr_left hsame]
      exact List.map_id _

/-! ### Paths into the copy -/

theorem lookup_copied (key : String) : (copied denied members).lookup key =
    if copies denied key = true then (members.lookup key).map (stripKeys denied) else none := by
  induction members with
  | nil =>
      split
      · rfl
      · rfl
  | cons m rest ih =>
      obtain ⟨other, v⟩ := m
      rw [copied_cons, List.lookup_cons]
      by_cases hkey : key = other
      · subst hkey
        by_cases hcopies : copies denied key = true
        · simp [hcopies]
        · simpa [hcopies] using ih
      · have hne : (key == other) = false := beq_eq_false_iff_ne.mpr hkey
        rw [hne]
        by_cases hother : copies denied other = true
        · rw [if_pos hother, List.lookup_cons, hne]
          exact ih
        · rw [if_neg hother]
          exact ih

theorem lookup_of_mem {m : String × Json} (hkeys : (members.map Prod.fst).Nodup) (hm : m ∈ members) :
    members.lookup m.1 = some m.2 := by
  obtain ⟨before, after, rfl⟩ := List.append_of_mem hm
  refine List.lookup_eq_some_iff.mpr ⟨before, after, rfl, fun p hp => ?_⟩
  rw [List.map_append, List.nodup_append] at hkeys
  exact bne_iff_ne.mpr (hkeys.2.2 p.1 (List.mem_map_of_mem hp) m.1 List.mem_cons_self).symm

theorem mem_of_lookup {key : String} (h : members.lookup key = some v) : (key, v) ∈ members := by
  obtain ⟨before, after, rfl, -⟩ := List.lookup_eq_some_iff.mp h
  exact List.mem_append_right _ List.mem_cons_self

/-- A step that leads nowhere in a copy. -/
def blocked (denied : String → Bool) : Json.Step → Bool
  | .key k => !copies denied k
  | .index _ => false

/-- **One step into the copy.** -/
theorem child_stripKeys (hv : v.WellFormed finite) (s : Json.Step) : (stripKeys denied v).child s =
    if blocked denied s = true then none else (v.child s).map (stripKeys denied) := by
  cases v with
  | null | bool | num | str =>
      cases s with
      | key key => exact (ite_self none).symm
      | index i => rfl
  | arr values =>
      rw [stripKeys_arr]
      cases s with
      | key key => exact (ite_self none).symm
      | index i => exact List.getElem?_map
  | obj members =>
      rw [stripKeys_obj hv.1]
      cases s with
      | index i => rfl
      | key key =>
          rw [Json.child, lookup_copied, blocked, Json.child]
          cases copies denied key with
          | true => rfl
          | false => rfl

theorem child_wellFormed {u : Json} {s : Json.Step} (hv : v.WellFormed finite) (h : v.child s = some u) :
    u.WellFormed finite := by
  cases v with
  | null | bool | num | str => cases h
  | arr values =>
      cases s with
      | key key => cases h
      | index i => exact (Json.wellFormedValues_iff values).mp hv u (List.mem_of_getElem? h)
  | obj members =>
      cases s with
      | index i => cases h
      | key key => exact (Json.wellFormedMembers_iff members).mp hv.2 (key, u) (mem_of_lookup h)

/-- **What a path reaches in the copy**: what it reached, stripped, unless it leads through a key that is not copied. -/
theorem reach_stripKeys (hv : v.WellFormed finite) (path : List Json.Step) : (stripKeys denied v).reach path =
    if path.any (blocked denied) = true then none else (v.reach path).map (stripKeys denied) := by
  induction path generalizing v with
  | nil => rfl
  | cons s rest ih =>
      rw [Json.reach, child_stripKeys hv, Json.reach, List.any_cons]
      cases hblocked : blocked denied s with
      | true => rfl
      | false =>
          rw [if_neg (by decide), Bool.false_or]
          cases hchild : v.child s with
          | none => exact (ite_self none).symm
          | some u => exact ih (child_wellFormed hv hchild)

theorem reach_wellFormed {u : Json} {path : List Json.Step} (hv : v.WellFormed finite) (h : v.reach path = some u) :
    u.WellFormed finite := by
  induction path generalizing v with
  | nil =>
      cases h
      exact hv
  | cons s rest ih =>
      obtain ⟨w, hw, hreach⟩ := Option.bind_eq_some_iff.mp h
      exact ih (child_wellFormed hv hw) hreach

end Strip

/-! ### Redaction -/

/-- A path through no key that is left out. -/
def Open (denied : String → Bool) (path : List Json.Step) : Prop := ∀ key, .key key ∈ path → denied key = false

/-- What stands at a place, without what stands below it: a text or number, the length of an array, the keys of an object
but those that are left out. -/
def face (denied : String → Bool) : Json → Json
  | .arr values => .arr (values.map fun _ => .null)
  | .obj members => .obj ((members.filter fun m => !denied m.1).map fun m => (m.1, .null))
  | v => v

/-- A redaction is complete, leaves everything else and is idempotent, at a value. -/
structure Redacted (denied : String → Bool) (strip : Json → Json) (v : Json) : Prop where
  complete : ∀ path members, (strip v).reach path = some (.obj members) → ∀ m ∈ members, denied m.1 = false
  preserved : ∀ path, Open denied path → ((strip v).reach path).map (face denied) = (v.reach path).map (face denied)
  idempotent : strip (strip v) = strip v

mutual

/-- No object that is kept has a member `__proto__`. -/
def protoFree (denied : String → Bool) : Json → Bool
  | .null => true
  | .bool _ => true
  | .num _ => true
  | .str _ => true
  | .arr values => protoFreeValues denied values
  | .obj members => protoFreeMembers denied members

def protoFreeValues (denied : String → Bool) : List Json → Bool
  | [] => true
  | v :: rest => protoFree denied v && protoFreeValues denied rest

def protoFreeMembers (denied : String → Bool) : List (String × Json) → Bool
  | [] => true
  | (key, v) :: rest => (denied key || (key ≠ "__proto__" && protoFree denied v)) && protoFreeMembers denied rest

end

section Redacted

variable {denied : String → Bool} {finite : Set ℚ} {members : List (String × Json)} {v : Json}

theorem protoFree_arr {values : List Json} :
    protoFree denied (.arr values) = true ↔ ∀ v ∈ values, protoFree denied v = true := by
  rw [protoFree]
  induction values with
  | nil => simp [protoFreeValues]
  | cons v rest ih => simp [protoFreeValues, ih]

theorem protoFree_obj : protoFree denied (.obj members) = true ↔
    ∀ m ∈ members, denied m.1 = false → m.1 ≠ "__proto__" ∧ protoFree denied m.2 = true := by
  rw [protoFree]
  induction members with
  | nil => simp [protoFreeMembers]
  | cons m rest ih =>
      obtain ⟨key, v⟩ := m
      rw [protoFreeMembers, Bool.and_eq_true, ih, List.forall_mem_cons]
      cases denied key with
      | true => simp
      | false => simp

/-- No object of a copy has a key that is left out. -/
theorem stripKeys_complete (hv : v.WellFormed finite) {path : List Json.Step}
    (h : (stripKeys denied v).reach path = some (.obj members)) : ∀ m ∈ members, denied m.1 = false := by
  rw [reach_stripKeys hv] at h
  split at h
  · cases h
  · obtain ⟨u, hu, hcopy⟩ := Option.map_eq_some_iff.mp h
    have hwell : u.WellFormed finite := reach_wellFormed hv hu
    cases u with
    | null | bool | num | str | arr => cases hcopy
    | obj members' =>
        rw [stripKeys_obj hwell.1] at hcopy
        cases hcopy
        intro m hm
        have hcopies := (of_mem_copied hm).1
        rw [copies, Bool.and_eq_true, Bool.not_eq_true'] at hcopies
        exact hcopies.1

theorem face_stripKeys (hv : v.WellFormed finite) (hproto : protoFree denied v = true) :
    face denied (stripKeys denied v) = face denied v := by
  cases v with
  | null | bool | num | str => rfl
  | arr values =>
      rw [stripKeys_arr, face, face, List.map_map]
      rfl
  | obj members =>
      rw [protoFree_obj] at hproto
      rw [stripKeys_obj hv.1, face, face]
      refine congrArg Json.obj ?_
      have hopen : (copied denied members).filter (fun m => !denied m.1) = copied denied members := by
        refine List.filter_eq_self.mpr fun m hm => ?_
        have hcopies := (of_mem_copied hm).1
        rw [copies, Bool.and_eq_true] at hcopies
        exact hcopies.1
      have hsame : (members.filter fun m => copies denied m.1) = members.filter fun m => !denied m.1 := by
        apply List.filter_congr
        intro m hm
        cases hdenied : denied m.1 with
        | true => simp [copies, hdenied]
        | false => simp [copies, hdenied, (hproto m hm hdenied).1]
      rw [hopen, copied, hsame, List.map_map]
      rfl

theorem Open.tail {s : Json.Step} {rest : List Json.Step} (h : Open denied (s :: rest)) : Open denied rest :=
  fun key hkey => h key (List.mem_cons_of_mem _ hkey)

/-- Where no object that is kept has a member `__proto__`, everything is preserved. -/
theorem preserved_of_protoFree (hv : v.WellFormed finite) (hproto : protoFree denied v = true)
    {path : List Json.Step} (hpath : Open denied path) :
    ((stripKeys denied v).reach path).map (face denied) = (v.reach path).map (face denied) := by
  induction path generalizing v with
  | nil => exact congrArg some (face_stripKeys hv hproto)
  | cons s rest ih =>
      rw [Json.reach, Json.reach, child_stripKeys hv]
      cases hchild : v.child s with
      | none =>
          split
          · rfl
          · rfl
      | some u =>
          have hwell := child_wellFormed hv hchild
          have hstep : blocked denied s = false ∧ protoFree denied u = true := by
            cases v with
            | null | bool | num | str => cases hchild
            | arr values =>
                cases s with
                | key key => cases hchild
                | index i => exact ⟨rfl, protoFree_arr.mp hproto u (List.mem_of_getElem? hchild)⟩
            | obj members =>
                cases s with
                | index i => cases hchild
                | key key =>
                    have hopen : denied key = false := hpath key List.mem_cons_self
                    have hmember := protoFree_obj.mp hproto (key, u) (mem_of_lookup hchild) hopen
                    exact ⟨by simp [blocked, copies, hopen, hmember.1], hmember.2⟩
          rw [hstep.1, if_neg (by decide)]
          exact ih hwell hstep.2 hpath.tail

theorem preserved_child {u : Json} {s : Json.Step} (hv : v.WellFormed finite) (hchild : v.child s = some u)
    (hopen : Open denied [s])
    (h : ∀ path, Open denied path →
      ((stripKeys denied v).reach path).map (face denied) = (v.reach path).map (face denied)) :
    blocked denied s = false ∧ ∀ path, Open denied path →
      ((stripKeys denied u).reach path).map (face denied) = (u.reach path).map (face denied) := by
  have hstep (path : List Json.Step) (hpath : Open denied path) :
      ((if blocked denied s = true then none else some (stripKeys denied u)).bind fun w => w.reach path).map
        (face denied) = (u.reach path).map (face denied) := by
    have hcons : Open denied (s :: path) := by
      intro key hkey
      rcases List.mem_cons.mp hkey with hkey | hkey
      · exact hopen key (List.mem_singleton.mpr hkey)
      · exact hpath key hkey
    have hboth := h (s :: path) hcons
    rwa [Json.reach, Json.reach, child_stripKeys hv, hchild] at hboth
  have hfree : blocked denied s = false := by
    by_contra hblocked
    have hroot := hstep [] fun key hkey => by cases hkey
    rw [if_pos (by simpa using hblocked)] at hroot
    cases hroot
  refine ⟨hfree, fun path hpath => ?_⟩
  have hthere := hstep path hpath
  rwa [hfree, if_neg (by decide)] at hthere

/-- Only there. -/
theorem protoFree_of_preserved (hv : v.WellFormed finite) (h : ∀ path, Open denied path →
    ((stripKeys denied v).reach path).map (face denied) = (v.reach path).map (face denied)) :
    protoFree denied v = true := by
  induction v using Json.induct with
  | null | bool | num | str => rfl
  | arr values ih =>
      rw [protoFree_arr]
      intro u hu
      obtain ⟨i, hi⟩ := List.mem_iff_getElem?.mp hu
      have hchild : (Json.arr values).child (.index i) = some u := hi
      have hopen : Open denied [.index i] := by
        intro key hkey
        cases List.mem_singleton.mp hkey
      exact ih u hu (child_wellFormed hv hchild) (preserved_child hv hchild hopen h).2
  | obj members ih =>
      rw [protoFree_obj]
      intro m hm hdenied
      have hchild : (Json.obj members).child (.key m.1) = some m.2 := lookup_of_mem hv.1 hm
      have hopen : Open denied [.key m.1] := by
        intro key hkey
        cases List.mem_singleton.mp hkey
        exact hdenied
      obtain ⟨hblocked, hbelow⟩ := preserved_child hv hchild hopen h
      refine ⟨?_, ih m hm (child_wellFormed hv hchild) hbelow⟩
      rintro hproto
      rw [blocked, copies, hproto] at hblocked
      simp at hblocked

theorem redacted_iff (hv : v.WellFormed finite) : Redacted denied (stripKeys denied) v ↔ protoFree denied v = true :=
  ⟨fun h => protoFree_of_preserved hv h.preserved,
    fun h => ⟨fun _ _ hreach => stripKeys_complete hv hreach, fun _ hpath => preserved_of_protoFree hv h hpath,
      stripKeys_stripKeys hv⟩⟩

end Redacted

/-- **Redaction.** In both places, no key that is left out is found at any depth, everything else is preserved and a
second pass changes nothing, exactly for the values in which no object that is kept has a member `__proto__`. -/
theorem strip_redacted [Unicode] {finite : Set ℚ} {v : Json} (hv : v.WellFormed finite) :
    (Redacted isSensitive stripSensitive v ↔ protoFree isSensitive v = true) ∧
    (Redacted isPii stripPii v ↔ protoFree isPii v = true) :=
  ⟨redacted_iff hv, redacted_iff hv⟩

/-! ### Two values -/

namespace Pilot

/-- Letters whose case is that of ASCII. -/
@[reducible] def asciiLetters : Unicode := ⟨id, fun s => String.ofList (s.toList.map Char.toLower)⟩

/-- Metadata with keys that are left out at three depths. -/
def order : Json :=
  .obj [("orderId", .str "o1"), ("Phone", .str "050"),
    ("items", .arr [.obj [("LAT", .num 24), ("sku", .str "s"), ("shipping", .obj [("CITY", .str "Riyadh")])], .null])]

/-- Metadata, as it is parsed, with a member `__proto__`. -/
def inherited : Json := .obj [("__proto__", .obj [("source", .str "hook")]), ("orderId", .str "o1")]

theorem order_wellFormed : order.WellFormed Set.univ := by
  simp [order, Json.WellFormed, Json.WellFormedValues, Json.WellFormedMembers]

theorem inherited_wellFormed : inherited.WellFormed Set.univ := by
  simp [inherited, Json.WellFormed, Json.WellFormedMembers]

end Pilot

theorem strip_redacted_order :
    Redacted (@isSensitive Pilot.asciiLetters) (@stripSensitive Pilot.asciiLetters) Pilot.order ∧
      Redacted (@isPii Pilot.asciiLetters) (@stripPii Pilot.asciiLetters) Pilot.order := by
  have hsensitive : protoFree (@isSensitive Pilot.asciiLetters) Pilot.order = true := by decide +kernel
  have hpii : protoFree (@isPii Pilot.asciiLetters) Pilot.order = true := by decide +kernel
  have horder := @strip_redacted Pilot.asciiLetters Set.univ Pilot.order Pilot.order_wellFormed
  exact ⟨horder.1.mpr hsensitive, horder.2.mpr hpii⟩

/-- **A member is lost**: the copy has no own `__proto__`. -/
theorem strip_lost :
    ¬Redacted (@isSensitive Pilot.asciiLetters) (@stripSensitive Pilot.asciiLetters) Pilot.inherited ∧
      ¬Redacted (@isPii Pilot.asciiLetters) (@stripPii Pilot.asciiLetters) Pilot.inherited := by
  constructor
  · intro h
    have hfree := (redacted_iff Pilot.inherited_wellFormed).mp h
    revert hfree
    decide +kernel
  · intro h
    have hfree := (redacted_iff Pilot.inherited_wellFormed).mp h
    revert hfree
    decide +kernel

end Qift.Redaction
