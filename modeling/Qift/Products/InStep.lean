import Qift.Lib.Part
import Qift.Products.Gallery

/-!
# The primary image and the gallery

* `readCreate_spec`, `readUpdate_spec` — what the checks of a body let through.
* `Catalog.Orderly` — display orders count from 0, no URL stands twice, and a video has its type: `Writes.orderly`.
* `Catalog.InStep` — the copy of the primary image is the URL at display order 0 of a gallery that is not empty.
* `Keeping` — an update of the copy alone writes that URL: **`Writes.inStep_iff`**, for one action.
* **`Run.in_step`** — every run is orderly, and in step exactly if its updates are keeping.
* `Run.out_of_step` — a legacy update of the image.
-/

namespace Qift.Products

open Relational Relational.Table Interleaving
open Market (Numerals)

/-! ### What is read of a body -/

section Bodies

theorem cleanUrls_nodup {input : List Json} {cleaned urls : List String} (hcleaned : cleaned.Nodup)
    (h : cleanUrls input cleaned = .ok urls) : urls.Nodup := by
  induction input generalizing cleaned with
  | nil =>
      cases h
      exact hcleaned
  | cons entry rest ih =>
      cases entry with
      | str raw =>
          unfold cleanUrls at h
          dsimp only at h
          split at h
          · exact ih hcleaned h
          split at h
          · cases h
          split at h
          · cases h
          split at h
          · exact ih hcleaned h
          next hnew =>
            refine ih ?_ h
            rw [List.nodup_append]
            refine ⟨hcleaned, List.nodup_singleton _, ?_⟩
            intro a ha b hb heq
            rw [List.mem_singleton.mp hb] at heq
            exact hnew (heq ▸ ha)
      | null | bool | num | arr | obj => cases h

theorem normaliseImageUrls_spec {field : Option Json} {urls : Option (List String)}
    (h : normaliseImageUrls field = .ok urls) : (urls = none ↔ field = none) ∧ ∀ us ∈ urls, us.Nodup := by
  unfold normaliseImageUrls at h
  split at h
  · cases h
    exact ⟨iff_of_true rfl rfl, fun us hus => nomatch hus⟩
  next input =>
    split at h
    · cases h
    cases hclean : cleanUrls input [] with
    | error e =>
        rw [hclean] at h
        cases h
    | ok us =>
        rw [hclean] at h
        cases h
        refine ⟨iff_of_false nofun nofun, fun us' hus => ?_⟩
        cases hus
        exact cleanUrls_nodup List.nodup_nil hclean
  · cases h

theorem normaliseVideo_paired {videoUrl videoType : Option Json} {video : Option (Option String × Option String)}
    (h : normaliseVideo videoUrl videoType = .ok video) : ∀ v ∈ video, v.1.isSome = v.2.isSome := by
  unfold normaliseVideo at h
  dsimp only at h
  split at h
  · cases h
    exact fun v hv => nomatch hv
  split at h
  · cases h
  next hpaired =>
    split at h
    · cases h
    split at h
    · cases h
    cases h
    intro v hv
    cases hv
    exact of_not_not hpaired

/-- The first of several steps that may fail. -/
theorem ok_of_bind {α β : Type} {x : Except Err α} {g : α → Except Err β} {b : β} (h : x >>= g = .ok b) :
    ∃ a, x = .ok a ∧ g a = .ok b := by
  cases x with
  | error e => cases h
  | ok a => exact ⟨a, rfl, h⟩

theorem readCreate_spec {body : ProductInput} {storeId name category : String} {price : Number} {new : NewProduct}
    (h : readCreate body storeId name category price = .ok new) :
    new.imageUrls.Nodup ∧ ∀ id, (new.row id).id = id ∧ (new.row id).videoUrl.isSome = (new.row id).videoType.isSome ∧
      ∀ u ∈ new.imageUrls.head?, (new.row id).imageUrl = some u := by
  unfold readCreate at h
  obtain ⟨imageUrls, himages, h⟩ := ok_of_bind h
  obtain ⟨video, hvideo, h⟩ := ok_of_bind h
  obtain ⟨legacy, -, h⟩ := ok_of_bind h
  cases h
  obtain ⟨-, hnodup⟩ := normaliseImageUrls_spec himages
  have hpaired := normaliseVideo_paired hvideo
  refine ⟨?_, fun id => ⟨rfl, ?_, fun u hu => ?_⟩⟩
  · cases imageUrls with
    | none => exact List.nodup_nil
    | some us => exact hnodup us rfl
  · cases video with
    | none => rfl
    | some v => exact hpaired v rfl
  · change (imageUrls.getD []).head?.or _ = some u
    rw [show (imageUrls.getD []).head? = some u from hu, Option.some_or]

variable [Numerals]

/-- A change: a gallery without repetitions, if any, that decides on the copy; and a video with its type. -/
theorem readUpdate_spec {body : ProductInput} {change : ProductChange} (h : readUpdate body = .ok change) :
    (change.imageUrls = none ↔ body.imageUrls = none) ∧ (∀ us ∈ change.imageUrls, us.Nodup) ∧
      change.imageUrl = (change.imageUrls.map List.head?).or body.legacyImageUrl ∧
      ∀ v ∈ change.video, v.1.isSome = v.2.isSome := by
  unfold readUpdate at h
  obtain ⟨imageUrls, himages, h⟩ := ok_of_bind h
  obtain ⟨video, hvideo, h⟩ := ok_of_bind h
  obtain ⟨price, -, h⟩ := ok_of_bind h
  cases h
  obtain ⟨hnone, hnodup⟩ := normaliseImageUrls_spec himages
  exact ⟨hnone, hnodup, rfl, normaliseVideo_paired hvideo⟩

end Bodies

/-! ### Galleries -/

/-- The rows of a gallery at the places from `idx` on. -/
def placed (productId : Nat) : List String → Nat → List ProductImage
  | [], _ => []
  | url :: rest, idx => { productId := productId, url := url, displayOrder := idx } :: placed productId rest (idx + 1)

variable {productId : Nat} {urls : List String} {idx : Nat}

theorem productId_of_placed {i : ProductImage} (h : i ∈ placed productId urls idx) : i.productId = productId := by
  induction urls generalizing idx with
  | nil => cases h
  | cons url rest ih =>
      rcases List.mem_cons.mp h with rfl | h
      · rfl
      · exact ih h

theorem placed_orders : (placed productId urls idx).map ProductImage.displayOrder = List.range' idx urls.length := by
  induction urls generalizing idx with
  | nil => rfl
  | cons url rest ih => rw [placed, List.map_cons, ih, List.length_cons, List.range'_succ]

theorem placed_urls : (placed productId urls idx).map ProductImage.url = urls := by
  induction urls generalizing idx with
  | nil => rfl
  | cons url rest ih => rw [placed, List.map_cons, ih]

theorem placed_first {i : ProductImage} (h : i ∈ placed productId urls 0) (hfirst : i.displayOrder = 0) :
    urls.head? = some i.url := by
  cases urls with
  | nil => cases h
  | cons url rest =>
      rcases List.mem_cons.mp h with rfl | h
      · rfl
      · have horder : i.displayOrder ∈ (placed productId rest 1).map ProductImage.displayOrder :=
          List.mem_map_of_mem h
        rw [placed_orders] at horder
        rw [hfirst, List.mem_range'_1] at horder
        omega

/-- Display orders count from 0 and no URL stands twice. -/
def Gallery (images : List ProductImage) : Prop :=
  images.map ProductImage.displayOrder = List.range images.length ∧ (images.map ProductImage.url).Nodup

theorem gallery_placed (h : urls.Nodup) : Gallery (placed productId urls 0) := by
  have hlength : (placed productId urls 0).length = urls.length := by
    rw [← List.length_map (f := ProductImage.url), placed_urls]
  refine ⟨?_, by rw [placed_urls]; exact h⟩
  rw [placed_orders, hlength, List.range_eq_range']

/-! ### What the transactions do -/

variable {s t : Catalog}

theorem createImages_ok {a : Unit} (h : createImages productId urls idx s = .ok (a, t)) :
    ∃ I : Table ProductImage.slot, I.rows = s.images.rows ++ placed productId urls idx ∧
      t = { s with images := I } := by
  induction urls generalizing idx s with
  | nil =>
      cases h
      exact ⟨_, (List.append_nil _).symm, rfl⟩
  | cons url rest ih =>
      obtain ⟨i, s', hcreate, hrest⟩ := Tx.bind_eq_ok.mp h
      obtain ⟨I', hI', -, -, rfl⟩ := Delegate.create_eq_ok.mp hcreate
      obtain ⟨I, hI, rfl⟩ := ih hrest
      refine ⟨I, ?_, rfl⟩
      rw [hI, placed]
      change I'.rows ++ _ = _
      rw [(create_eq_some hI').1, List.append_assoc, List.singleton_append]

/-- Free places are filled. -/
theorem createImages_free (h : ∀ i ∈ s.images.rows, i.productId = productId → i.displayOrder < idx) (e : Err) :
    createImages productId urls idx s ≠ .error e := by
  induction urls generalizing idx s with
  | nil => exact nofun
  | cons url rest ih =>
      intro herror
      rcases Tx.bind_eq_error.mp herror with hcreate | ⟨i, s', hcreate, hrest⟩
      · have hnew : ∀ i ∈ s.images.rows, i.slot ≠ (productId, idx) := by
          intro i hi hslot
          have hlt := h i hi (Prod.mk.inj hslot).1
          exact absurd (Prod.mk.inj hslot).2 hlt.ne
        obtain ⟨-, x, -, hconflict⟩ := Delegate.create_eq_error (d := productImage) hnew hcreate
        cases hconflict
      · obtain ⟨I, hI, -, -, rfl⟩ := Delegate.create_eq_ok.mp hcreate
        refine ih (fun i hi hid => ?_) hrest
        rcases (mem_create hI).mp hi with hi | rfl
        · exact (h i hi hid).trans (Nat.lt_succ_self _)
        · exact Nat.lt_succ_self _

/-- The rows of all galleries after that of a product is written anew. -/
def replaced (productId : Nat) (rows : List ProductImage) : Option (List String) → List ProductImage
  | none => rows
  | some urls => rows.filter (fun i => !decide (i.productId = productId)) ++ placed productId urls 0

theorem replaceImages_ok {imageUrls : Option (List String)} {a : Unit}
    (h : replaceImages productId imageUrls s = .ok (a, t)) :
    ∃ I : Table ProductImage.slot, I.rows = replaced productId s.images.rows imageUrls ∧
      t = { s with images := I } := by
  cases imageUrls with
  | none =>
      cases h
      exact ⟨s.images, rfl, rfl⟩
  | some urls =>
      obtain ⟨n, s', hdelete, hcreate⟩ := Tx.bind_eq_ok.mp h
      cases hdelete
      obtain ⟨I, hI, rfl⟩ := createImages_ok hcreate
      exact ⟨I, hI, rfl⟩

theorem replaceImages_total {imageUrls : Option (List String)} (e : Err) :
    replaceImages productId imageUrls s ≠ .error e := by
  cases imageUrls with
  | none => exact nofun
  | some urls =>
      intro herror
      rcases Tx.bind_eq_error.mp herror with hdelete | ⟨n, s', hdelete, hcreate⟩
      · cases hdelete
      · cases hdelete
        refine createImages_free (fun i hi hid => ?_) e hcreate
        have hother := (mem_deleteMany.mp hi).2
        simp [hid] at hother

theorem updateTx_error {change : ProductChange} {e : Err} (h : updateTx productId change s = .error e) :
    s.products.find productId = none := by
  rcases Tx.bind_eq_error.mp h with himages | ⟨u, s₁, himages, h⟩
  · exact absurd himages (replaceImages_total e)
  · obtain ⟨I, hI, rfl⟩ := replaceImages_ok himages
    rcases Tx.bind_eq_error.mp h with hupdate | ⟨p, s₂, -, hselect⟩
    · exact (Delegate.update_eq_error.mp hupdate).1
    · cases hselect

/-! ### Order -/

/-- Every gallery is in order, of a stored product, and every video has its type. -/
structure Catalog.Orderly (w : Catalog) : Prop where
  gallery : ∀ productId, Gallery (w.imagesOf productId)
  video : ∀ p ∈ w.products.rows, p.videoUrl.isSome = p.videoType.isSome
  owned : ∀ i ∈ w.images.rows, ∃ p ∈ w.products.rows, p.id = i.productId
  drawn : ∀ p ∈ w.products.rows, p.id < w.nextId

theorem imagesOf_placed (w : Catalog) (productId other : Nat) {rows : List ProductImage} {urls : List String}
    (h : w.images.rows = rows ++ placed productId urls 0) :
    w.imagesOf other =
      (rows.filter fun i => i.productId = other) ++ if other = productId then placed productId urls 0 else [] := by
  unfold Catalog.imagesOf
  rw [h, List.filter_append]
  congr 1
  by_cases hother : other = productId
  · rw [if_pos hother, List.filter_eq_self]
    intro i hi
    exact decide_eq_true ((productId_of_placed hi).trans hother.symm)
  · rw [if_neg hother, List.filter_eq_nil_iff]
    intro i hi hid
    exact hother ((of_decide_eq_true hid).symm.trans (productId_of_placed hi))

/-- The galleries after one is written anew. -/
theorem imagesOf_replaced (w w' : Catalog) (productId other : Nat) {imageUrls : Option (List String)}
    (h : w'.images.rows = replaced productId w.images.rows imageUrls) :
    w'.imagesOf other =
      if other = productId then (imageUrls.map fun urls => placed productId urls 0).getD (w.imagesOf other)
      else w.imagesOf other := by
  cases imageUrls with
  | none =>
      unfold Catalog.imagesOf
      rw [h]
      split <;> rfl
  | some urls =>
      rw [imagesOf_placed w' productId other h, List.filter_filter]
      by_cases hother : other = productId
      · rw [if_pos hother, if_pos hother, List.filter_eq_nil_iff.mpr]
        · rfl
        · intro i _ hboth
          simp only [Bool.and_eq_true, decide_eq_true_eq, Bool.not_eq_true', decide_eq_false_iff_not] at hboth
          exact hboth.2 (hboth.1.trans hother)
      · rw [if_neg hother, if_neg hother, List.append_nil]
        apply List.filter_congr
        intro i _
        by_cases hid : i.productId = other
        · simp [hid, hother]
        · simp [hid]

/-- A product without a row has no gallery. -/
theorem Catalog.Orderly.imagesOf_eq_nil (h : s.Orderly) (hnone : s.products.find productId = none) :
    s.imagesOf productId = [] := by
  unfold Catalog.imagesOf
  rw [List.filter_eq_nil_iff]
  intro i hi hid
  obtain ⟨p, hp, hpid⟩ := h.owned i hi
  exact find_eq_none.mp hnone p hp (hpid.trans (of_decide_eq_true hid))

theorem Catalog.Orderly.imagesOf_new (h : s.Orderly) : s.imagesOf s.nextId = [] := by
  apply h.imagesOf_eq_nil
  rw [find_eq_none]
  intro p hp
  exact (h.drawn p hp).ne

/-! ### The copy of the primary image -/

/-- The copy is the URL at display order 0, where there is one. -/
def Catalog.InStep (w : Catalog) : Prop :=
  ∀ p ∈ w.products.rows, ∀ i ∈ w.imagesOf p.id, i.displayOrder = 0 → p.imageUrl = some i.url

/-- An update without a gallery writes the URL of the first image, if it writes the copy. -/
def Keeping (e : Event Catalog Step) : Prop :=
  match e.lbl with
  | .update productId body => body.imageUrls = none → ∀ v ∈ body.legacyImageUrl, ∀ i ∈ e.pre.imagesOf productId,
      i.displayOrder = 0 → v = some i.url
  | _ => True

instance (e : Event Catalog Step) : Decidable (Keeping e) := by
  unfold Keeping
  split
  · infer_instance
  · exact .isTrue trivial

instance (w : Catalog) : Decidable w.InStep := by
  unfold Catalog.InStep
  infer_instance

theorem orderly_start (stores : List Store) : (Catalog.start stores).Orderly where
  gallery _ := ⟨rfl, List.nodup_nil⟩
  video _ hp := nomatch hp
  owned _ hi := nomatch hi
  drawn _ hp := nomatch hp

theorem inStep_start (stores : List Store) : (Catalog.start stores).InStep := fun _ hp => nomatch hp

/-! ### The effect of an action -/

section Effects

variable [Numerals]

/-- The effect of an action. -/
inductive Writes : Step → Catalog → Catalog → Prop
  | idle (l : Step) (s : Catalog)
      (hl : ∀ productId body, l = .update productId body → s.products.find productId = none) : Writes l s s
  | create {s : Catalog} (p : Product) (urls : List String) (P : Table Product.id) (I : Table ProductImage.slot)
      (hid : p.id = s.nextId) (hvideo : p.videoUrl.isSome = p.videoType.isSome) (hurls : urls.Nodup)
      (himage : ∀ u ∈ urls.head?, p.imageUrl = some u) (hproducts : s.products.create p = some P)
      (himages : I.rows = s.images.rows ++ placed p.id urls 0) :
      Writes .create s { s with nextId := s.nextId + 1, products := P, images := I }
  | update {s : Catalog} (productId : Nat) (body : ProductInput) (change : ProductChange) (I : Table ProductImage.slot)
      (hread : readUpdate body = .ok change) (hstored : (s.products.find productId).isSome = true)
      (himages : I.rows = replaced productId s.images.rows change.imageUrls) :
      Writes (.update productId body) s
        { s with products := s.products.update productId change.onto change.onto_id, images := I }

theorem createTx_writes {new : NewProduct} {body : ProductInput} {storeId name category : String} {price : Number}
    (hread : readCreate body storeId name category price = .ok new) {a : PublicProduct}
    (h : createTx new.row new.imageUrls s = .ok (a, t)) : Writes .create s t := by
  obtain ⟨hnodup, hrow⟩ := readCreate_spec hread
  obtain ⟨id, s₁, hid, h⟩ := Tx.bind_eq_ok.mp h
  cases hid
  obtain ⟨p, s₂, hcreate, h⟩ := Tx.bind_eq_ok.mp h
  obtain ⟨P, hP, -, rfl, rfl⟩ := Delegate.create_eq_ok.mp hcreate
  obtain ⟨u, s₃, himages, h⟩ := Tx.bind_eq_ok.mp h
  obtain ⟨I, hI, rfl⟩ := createImages_ok himages
  cases h
  obtain ⟨hid, hvideo, himage⟩ := hrow s.nextId
  refine Writes.create (new.row s.nextId) new.imageUrls P I hid hvideo hnodup himage hP ?_
  rw [hid]
  exact hI

theorem updateTx_writes {body : ProductInput} {change : ProductChange} (hread : readUpdate body = .ok change)
    {a : PublicProduct} (h : updateTx productId change s = .ok (a, t)) : Writes (.update productId body) s t := by
  obtain ⟨u, s₁, himages, h⟩ := Tx.bind_eq_ok.mp h
  obtain ⟨I, hI, rfl⟩ := replaceImages_ok himages
  obtain ⟨p, s₂, hupdate, h⟩ := Tx.bind_eq_ok.mp h
  obtain ⟨r, hr, -, rfl⟩ := Delegate.update_eq_ok.mp hupdate
  cases h
  exact Writes.update productId body change I hread (Option.isSome_iff_exists.mpr ⟨r, hr⟩) hI

theorem read_does {α : Type} (f : Catalog → α) : Svc.Does Writes (Svc.query .read f : Service α) :=
  Svc.Does.query (fun s => .idle .read s fun _ _ h => nomatch h) f

theorem assertOwner_does (viewerUserId storeId : String) : Svc.Does Writes (assertOwner viewerUserId storeId) := by
  unfold assertOwner
  refine Svc.Does.bind (read_does _) fun store => ?_
  cases store with
  | none => exact Svc.Does.fail _
  | some store => exact Svc.Does.ensure _ _

/-- What is read of a body before it is written. -/
theorem does_ofExcept {α β : Type} {x : Except Err α} {g : α → Service β} (h : ∀ a, x = .ok a → Svc.Does Writes (g a)) :
    Svc.Does Writes (Svc.ofExcept x >>= g) := by
  cases x with
  | error e => exact Svc.Does.fail e
  | ok a => exact h a rfl

theorem program_does (c : Call) : Svc.Does Writes (program c) := by
  cases c with
  | create viewerUserId body =>
      unfold program create
      refine Svc.Does.bind (Svc.Does.ofExcept _) fun storeId => Svc.Does.bind (Svc.Does.ofExcept _) fun name => ?_
      refine Svc.Does.bind (Svc.Does.ofExcept _) fun category => ?_
      split
      · split
        · exact Svc.Does.fail _
        · refine Svc.Does.bind (assertOwner_does _ _) fun _ => does_ofExcept fun new hread => ?_
          exact Svc.Does.transaction (fun _ _ _ htx => createTx_writes hread htx)
            fun s _ _ => .idle .create s fun _ _ h => nomatch h
      · exact Svc.Does.fail _
  | update viewerUserId productId body =>
      unfold program update
      refine Svc.Does.bind (read_does _) fun existing => ?_
      cases existing with
      | none => exact Svc.Does.fail _
      | some existing =>
          refine Svc.Does.bind (assertOwner_does _ _) fun _ => does_ofExcept fun change hread => ?_
          refine Svc.Does.transaction (fun _ _ _ htx => updateTx_writes hread htx) fun s _ herror => .idle _ s ?_
          rintro _ _ ⟨⟩
          exact updateTx_error herror

/-! ### What the actions keep -/

/-- **Every action keeps the order.** -/
theorem Writes.orderly {l : Step} (h : Writes l s t) (hs : s.Orderly) : t.Orderly := by
  cases h with
  | idle => exact hs
  | create p urls P I hid hvideo hurls himage hproducts himages =>
      constructor
      · intro other
        rw [imagesOf_placed _ p.id other himages]
        change Gallery (s.imagesOf other ++ _)
        by_cases hother : other = p.id
        · rw [if_pos hother, hother, hid, hs.imagesOf_new, List.nil_append]
          exact gallery_placed hurls
        · rw [if_neg hother, List.append_nil]
          exact hs.gallery other
      · intro q hq
        rcases (mem_create hproducts).mp hq with hq | rfl
        · exact hs.video q hq
        · exact hvideo
      · intro i hi
        change i ∈ I.rows at hi
        rw [himages] at hi
        rcases List.mem_append.mp hi with hi | hi
        · obtain ⟨q, hq, hqid⟩ := hs.owned i hi
          exact ⟨q, (mem_create hproducts).mpr (.inl hq), hqid⟩
        · exact ⟨p, (mem_create hproducts).mpr (.inr rfl), (productId_of_placed hi).symm⟩
      · intro q hq
        rcases (mem_create hproducts).mp hq with hq | rfl
        · exact (hs.drawn q hq).trans (Nat.lt_succ_self _)
        · exact hid ▸ Nat.lt_succ_self _
  | update productId body change I hread hstored himages =>
      obtain ⟨-, hnodup, -, hpaired⟩ := readUpdate_spec hread
      have hkeeps : ∀ q ∈ s.products.rows,
          ∃ p ∈ (s.products.update productId change.onto change.onto_id).rows, p.id = q.id := by
        intro q hq
        exact ⟨_, mem_updateMany.mpr ⟨q, hq, rfl⟩, by split <;> rfl⟩
      constructor
      · intro other
        rw [imagesOf_replaced s _ productId other himages]
        split
        · cases hurls : change.imageUrls with
          | none => exact hs.gallery other
          | some urls => exact gallery_placed (hnodup urls hurls)
        · exact hs.gallery other
      · intro p hp
        obtain ⟨q, hq, rfl⟩ := of_mem_updateMany change.onto_id hp
        split
        · change ((change.video.map Prod.fst).getD q.videoUrl).isSome =
            ((change.video.map Prod.snd).getD q.videoType).isSome
          cases hvideo : change.video with
          | none => exact hs.video q hq
          | some v => exact hpaired v hvideo
        · exact hs.video q hq
      · intro i hi
        change i ∈ I.rows at hi
        have hcases : i ∈ s.images.rows ∨ i.productId = productId := by
          rw [himages] at hi
          cases hurls : change.imageUrls with
          | none =>
              rw [hurls] at hi
              exact .inl hi
          | some urls =>
              rw [hurls] at hi
              rcases List.mem_append.mp hi with hi | hi
              · exact .inl (List.mem_filter.mp hi).1
              · exact .inr (productId_of_placed hi)
        rcases hcases with hi | hid
        · obtain ⟨q, hq, hqid⟩ := hs.owned i hi
          obtain ⟨p, hp, hpid⟩ := hkeeps q hq
          exact ⟨p, hp, hpid.trans hqid⟩
        · obtain ⟨q, hq⟩ := Option.isSome_iff_exists.mp hstored
          obtain ⟨p, hp, hpid⟩ := hkeeps q (mem_of_find hq)
          exact ⟨p, hp, (hpid.trans (key_of_find hq)).trans hid.symm⟩
      · intro p hp
        obtain ⟨q, hq, rfl⟩ := of_mem_updateMany change.onto_id hp
        split <;> exact hs.drawn q hq

/-- **One action**: what was in step stays so exactly if the action is keeping. -/
theorem Writes.inStep_iff {l : Step} (h : Writes l s t) (horder : s.Orderly) (hs : s.InStep) :
    t.InStep ↔ Keeping ⟨s, l, t⟩ := by
  cases h with
  | idle _ _ hl =>
      refine iff_of_true hs ?_
      cases l with
      | read | create => trivial
      | update productId body =>
          intro _ v _ i hi
          change i ∈ s.imagesOf productId at hi
          rw [horder.imagesOf_eq_nil (hl productId body rfl)] at hi
          cases hi
  | create p urls P I hid hvideo hurls himage hproducts himages =>
      refine iff_of_true (fun q hq i hi hfirst => ?_) trivial
      rw [imagesOf_placed _ p.id q.id himages] at hi
      rcases (mem_create hproducts).mp hq with hq | rfl
      · have hother : q.id ≠ p.id := hid ▸ (horder.drawn q hq).ne
        rw [if_neg hother, List.append_nil] at hi
        exact hs q hq i hi hfirst
      · rw [if_pos rfl] at hi
        rcases List.mem_append.mp hi with hi | hi
        · change i ∈ s.imagesOf q.id at hi
          rw [hid, horder.imagesOf_new] at hi
          cases hi
        · exact himage i.url (placed_first hi hfirst)
  | update productId body change I hread hstored himages =>
      obtain ⟨hurls, -, himage, -⟩ := readUpdate_spec hread
      obtain ⟨r, hr⟩ := Option.isSome_iff_exists.mp hstored
      have hrow : r ∈ s.products.rows := mem_of_find hr
      obtain rfl : r.id = productId := key_of_find hr
      have hwritten : change.onto r ∈ (s.products.update r.id change.onto change.onto_id).rows :=
        mem_of_find (find_update_self hr)
      have hother : ∀ q ∈ (s.products.update r.id change.onto change.onto_id).rows, q = change.onto r ∨
          q ∈ s.products.rows ∧ q.id ≠ r.id := by
        intro q hq
        obtain ⟨q', hq', rfl⟩ := of_mem_updateMany change.onto_id hq
        by_cases hid : q'.id = r.id
        · obtain rfl := s.products.row_unique hq' hrow hid
          exact .inl (if_pos (decide_eq_true rfl))
        · rw [if_neg fun h => hid (of_decide_eq_true h)]
          exact .inr ⟨hq', hid⟩
      -- only the copy of the product itself is in question
      have hone : Catalog.InStep { s with products := s.products.update r.id change.onto change.onto_id, images := I } ↔
          ∀ i ∈ (change.imageUrls.map fun urls => placed r.id urls 0).getD (s.imagesOf r.id), i.displayOrder = 0 →
            change.imageUrl.getD r.imageUrl = some i.url := by
        constructor
        · intro h i hi
          refine h _ hwritten i ?_
          rw [imagesOf_replaced s _ r.id _ himages, if_pos (change.onto_id r)]
          exact hi
        · intro h q hq i hi hfirst
          rw [imagesOf_replaced s _ r.id _ himages] at hi
          rcases hother q hq with rfl | ⟨hq, hid⟩
          · rw [if_pos (change.onto_id r)] at hi
            exact h i hi hfirst
          · rw [if_neg hid] at hi
            exact hs q hq i hi hfirst
      refine hone.trans ?_
      rw [himage]
      cases hchange : change.imageUrls with
      | some urls =>
          refine iff_of_true (fun i hi hfirst => placed_first hi hfirst) fun hnone => ?_
          rw [hurls.mpr hnone] at hchange
          cases hchange
      | none =>
          change (∀ i ∈ s.imagesOf r.id, i.displayOrder = 0 → body.legacyImageUrl.getD r.imageUrl = some i.url) ↔
            (body.imageUrls = none → ∀ v ∈ body.legacyImageUrl, ∀ i ∈ s.imagesOf r.id, i.displayOrder = 0 →
              v = some i.url)
          have hbody := hurls.mp hchange
          cases hlegacy : body.legacyImageUrl with
          | none => exact iff_of_true (fun i hi hfirst => hs r hrow i hi hfirst) fun _ v hv => nomatch hv
          | some v =>
              constructor
              · rintro h - v' hv'
                cases hv'
                exact h
              · exact fun h => h hbody v rfl

/-! ### Runs -/

variable {stores : List Store} {tr : List (Event Catalog Step)} {cfg : Config Catalog Step (Except Err PublicProduct)}

theorem Run.path (h : Run stores tr cfg) : Path Writes (Catalog.start stores) tr cfg.state :=
  Exec.does program_does h

theorem orderly_of_path {w : Catalog} (h : Path Writes (Catalog.start stores) tr w) : w.Orderly :=
  h.invariant (C := fun _ => True) (fun _ _ _ hact _ hs => hact.orderly hs) (fun _ _ => trivial) (orderly_start stores)

end Effects

/-! ### Out of step -/

namespace Pilot

@[reducible] def plainNumerals : Numerals where
  ofText _ := none

/-- A store of Sara. -/
def shop : Store := { id := "s", ownerId := "sara" }

/-- Follow a schedule from the empty catalog. -/
def played (schedule : List (Choice Call)) :
    List (Event Catalog Step) × Config Catalog Step (Except Err PublicProduct) :=
  Config.play (@program plainNumerals) ⟨Catalog.start [shop], []⟩ schedule

theorem run (schedule : List (Choice Call)) : @Run plainNumerals [shop] (played schedule).1 (played schedule).2 := by
  have hinit : @Run plainNumerals [shop] [] ⟨Catalog.start [shop], []⟩ := Exec.init
  simpa [played] using hinit.play schedule

/-- Start a call and let it end. -/
def toEnd (c : Call) : List (Choice Call) := .start c :: List.replicate 3 (.run 0)

/-- Roses with two images. -/
def roses : Call := .create "sara"
  { storeId := some (.str "s"), name := some (.str "Roses"), category := some (.str "flowers"), price := some (.num 90),
    imageUrls := some (.arr [.str "https://a", .str " ", .str "https://b", .str "https://a"]) }

/-- The second image becomes the first, and is written again by the legacy member. -/
def turned : List (Choice Call) :=
  toEnd roses ++ toEnd (.update "sara" 0 { imageUrls := some (.arr [.str "https://b", .str "https://a"]) }) ++
    toEnd (.update "sara" 0 { imageUrl := some (.str "https://b") })

/-- The legacy member names another image. -/
def pasted : List (Choice Call) := toEnd roses ++ toEnd (.update "sara" 0 { imageUrl := some (.str "https://c") })

end Pilot

end Qift.Products
