import AgenticMesh.Base.JsonEquality

/-!
# The scalars of a value and their positions

A value without empty objects and arrays is told by its scalars and the
positions at which they stand.
-/

namespace AgenticMesh

namespace Json

/-- A step from an object or an array to one of its members. -/
inductive Step where
  | key (name : String)
  | index (i : ℕ)
deriving DecidableEq, Repr

/-- A position in a value, from the root. -/
abbrev Position := List Step

/-- The scalars of a member are scalars of the container. -/
def under (step : Step) (scalars : List (Position × Json)) : List (Position × Json) :=
  scalars.map fun p => (step :: p.1, p.2)

mutual

/-- The scalars of a value in their order, with their positions. -/
def scalars : Json → List (Position × Json)
  | .obj fields => scalarsOfFields fields
  | .arr items => scalarsOfItems 0 items
  | value => [([], value)]

def scalarsOfFields : List (String × Json) → List (Position × Json)
  | [] => []
  | (key, value) :: fields => under (.key key) (scalars value) ++ scalarsOfFields fields

def scalarsOfItems (index : ℕ) : List Json → List (Position × Json)
  | [] => []
  | item :: items => under (.index index) (scalars item) ++ scalarsOfItems (index + 1) items

end

mutual

/-- No object and no array of the value is empty. -/
def isFull : Json → Bool
  | .obj fields => !fields.isEmpty && areFullFields fields
  | .arr items => !items.isEmpty && areFullItems items
  | _ => true

def areFullFields : List (String × Json) → Bool
  | [] => true
  | (_, value) :: fields => isFull value && areFullFields fields

def areFullItems : List Json → Bool
  | [] => true
  | item :: items => isFull item && areFullItems items

end

mutual

/-- The fields of every object in the value are in key order. -/
def Ordered : Json → Prop
  | .obj fields => InKeyOrder fields ∧ OrderedFields fields
  | .arr items => OrderedItems items
  | _ => True

def OrderedFields : List (String × Json) → Prop
  | [] => True
  | (_, value) :: fields => Ordered value ∧ OrderedFields fields

def OrderedItems : List Json → Prop
  | [] => True
  | item :: items => Ordered item ∧ OrderedItems items

end

/-! ## Members -/

section Below

variable {step step' : Step} {p : Position} {x : Json} {entries : List (Position × Json)}

lemma mem_under : (step' :: p, x) ∈ under step entries ↔ step' = step ∧ (p, x) ∈ entries := by
  simp only [under, List.mem_map, Prod.mk.injEq, List.cons.injEq, Prod.exists]
  constructor
  · rintro ⟨q, y, hmem, ⟨rfl, rfl⟩, rfl⟩
    exact ⟨rfl, hmem⟩
  · rintro ⟨rfl, hmem⟩
    exact ⟨p, x, hmem, ⟨rfl, rfl⟩, rfl⟩

lemma nil_notMem_under : ([], x) ∉ under step entries := by simp [under]

end Below

lemma nil_notMem_fields {x : Json} : ∀ fields, ([], x) ∉ scalarsOfFields fields
  | [] => List.not_mem_nil
  | (_, _) :: fields => fun h =>
    (List.mem_append.1 h).elim nil_notMem_under (nil_notMem_fields fields)

lemma nil_notMem_items {x : Json} : ∀ index items, ([], x) ∉ scalarsOfItems index items
  | _, [] => List.not_mem_nil
  | index, _ :: items => fun h =>
    (List.mem_append.1 h).elim nil_notMem_under (nil_notMem_items (index + 1) items)

/-- The scalars of an object stand under its keys. -/
lemma key_of_mem_fields {step : Step} {p : Position} {x : Json} :
    ∀ {fields : List (String × Json)}, (step :: p, x) ∈ scalarsOfFields fields →
      ∃ key ∈ fields.map Prod.fst, step = .key key
  | [], h => absurd h List.not_mem_nil
  | (key, value) :: fields, h => by
    rcases List.mem_append.1 h with h | h
    · exact ⟨key, List.mem_cons_self, (mem_under.1 h).1⟩
    · obtain ⟨key', hmem, hstep⟩ := key_of_mem_fields h
      exact ⟨key', List.mem_cons_of_mem _ hmem, hstep⟩

/-- The scalars of an array stand under its indices. -/
lemma index_of_mem_items {step : Step} {p : Position} {x : Json} :
    ∀ {index : ℕ} {items : List Json}, (step :: p, x) ∈ scalarsOfItems index items →
      ∃ i, index ≤ i ∧ step = .index i
  | _, [], h => absurd h List.not_mem_nil
  | index, item :: items, h => by
    rcases List.mem_append.1 h with h | h
    · exact ⟨index, le_rfl, (mem_under.1 h).1⟩
    · obtain ⟨i, hle, hstep⟩ := index_of_mem_items h
      exact ⟨i, by omega, hstep⟩

/-- The scalars under the first key of an object. -/
lemma mem_first_field {key : String} {value : Json} {fields : List (String × Json)}
    (h : InKeyOrder ((key, value) :: fields)) {p : Position} {x : Json} :
    (.key key :: p, x) ∈ scalarsOfFields ((key, value) :: fields) ↔ (p, x) ∈ scalars value := by
  rw [scalarsOfFields, List.mem_append, mem_under]
  refine ⟨fun hmem => hmem.elim And.right fun hmem => ?_, fun hmem => Or.inl ⟨rfl, hmem⟩⟩
  obtain ⟨key', hkey', hstep⟩ := key_of_mem_fields hmem
  obtain rfl := Step.key.inj hstep
  exact absurd hkey' (List.nodup_cons.1 h.nodup).1

/-- The scalars under the other keys of an object. -/
lemma mem_other_fields {key : String} {value : Json} {fields : List (String × Json)}
    (h : InKeyOrder ((key, value) :: fields)) {p : Position} {x : Json} :
    (p, x) ∈ scalarsOfFields fields ↔
      (p, x) ∈ scalarsOfFields ((key, value) :: fields) ∧ p.head? ≠ some (.key key) := by
  rw [scalarsOfFields, List.mem_append]
  cases p with
  | nil => simp [nil_notMem_fields, nil_notMem_under]
  | cons step p =>
    rw [mem_under, List.head?_cons, ne_eq, Option.some_inj]
    refine ⟨fun hmem => ⟨Or.inr hmem, ?_⟩, fun ⟨hmem, hne⟩ =>
      hmem.elim (fun hfirst => absurd hfirst.1 hne) id⟩
    rintro rfl
    obtain ⟨key', hkey', hstep⟩ := key_of_mem_fields hmem
    obtain rfl := Step.key.inj hstep
    exact (List.nodup_cons.1 h.nodup).1 hkey'

/-- The scalars of the first item of an array. -/
lemma mem_first_item (index : ℕ) (item : Json) (items : List Json) {p : Position} {x : Json} :
    (.index index :: p, x) ∈ scalarsOfItems index (item :: items) ↔ (p, x) ∈ scalars item := by
  rw [scalarsOfItems, List.mem_append, mem_under]
  refine ⟨fun hmem => hmem.elim And.right fun hmem => ?_, fun hmem => Or.inl ⟨rfl, hmem⟩⟩
  obtain ⟨i, hle, hstep⟩ := index_of_mem_items hmem
  obtain rfl := Step.index.inj hstep
  omega

/-- The scalars of the other items of an array. -/
lemma mem_other_items (index : ℕ) (item : Json) (items : List Json) {p : Position} {x : Json} :
    (p, x) ∈ scalarsOfItems (index + 1) items ↔
      (p, x) ∈ scalarsOfItems index (item :: items) ∧ p.head? ≠ some (.index index) := by
  rw [scalarsOfItems, List.mem_append]
  cases p with
  | nil => simp [nil_notMem_items, nil_notMem_under]
  | cons step p =>
    rw [mem_under, List.head?_cons, ne_eq, Option.some_inj]
    refine ⟨fun hmem => ⟨Or.inr hmem, ?_⟩, fun ⟨hmem, hne⟩ =>
      hmem.elim (fun hfirst => absurd hfirst.1 hne) id⟩
    rintro rfl
    obtain ⟨i, hle, hstep⟩ := index_of_mem_items hmem
    obtain rfl := Step.index.inj hstep
    omega

/-! ## Positions -/

lemma map_fst_under (step : Step) (entries : List (Position × Json)) :
    (under step entries).map Prod.fst = (entries.map Prod.fst).map (step :: ·) := by
  simp [under]

/-- The members of a container stand under different steps. -/
lemma nodup_under_append {step : Step} {entries entries' : List (Position × Json)}
    (h : (entries.map Prod.fst).Nodup) (h' : (entries'.map Prod.fst).Nodup)
    (hnew : ∀ p x, (step :: p, x) ∉ entries') :
    ((under step entries ++ entries').map Prod.fst).Nodup := by
  rw [List.map_append, map_fst_under]
  refine (h.map (List.cons_injective)).append h' fun q hq hq' => ?_
  obtain ⟨p, -, rfl⟩ := List.mem_map.1 hq
  obtain ⟨⟨_, x⟩, hmem, rfl⟩ := List.mem_map.1 hq'
  exact hnew p x hmem

mutual

/-- The scalars of a value stand at different positions. -/
theorem nodup_positions : ∀ {value : Json}, value.Ordered → (value.scalars.map Prod.fst).Nodup
  | .obj _, h => nodup_positions_fields h.1 h.2
  | .arr _, h => nodup_positions_items 0 h
  | .null, _ => List.nodup_singleton _
  | .bool _, _ => List.nodup_singleton _
  | .int _, _ => List.nodup_singleton _
  | .float _, _ => List.nodup_singleton _
  | .str _, _ => List.nodup_singleton _

theorem nodup_positions_fields : ∀ {fields : List (String × Json)}, InKeyOrder fields →
    OrderedFields fields → ((scalarsOfFields fields).map Prod.fst).Nodup
  | [], _, _ => List.nodup_nil
  | (_, _) :: _, horder, h => by
    refine nodup_under_append (nodup_positions h.1)
      (nodup_positions_fields (List.pairwise_cons.1 horder).2 h.2) fun p x hmem => ?_
    obtain ⟨key, hkey, hstep⟩ := key_of_mem_fields hmem
    obtain rfl := Step.key.inj hstep
    exact (List.nodup_cons.1 horder.nodup).1 hkey

theorem nodup_positions_items : ∀ (index : ℕ) {items : List Json}, OrderedItems items →
    ((scalarsOfItems index items).map Prod.fst).Nodup
  | _, [], _ => List.nodup_nil
  | index, _ :: _, h => by
    refine nodup_under_append (nodup_positions h.1)
      (nodup_positions_items (index + 1) h.2) fun p x hmem => ?_
    obtain ⟨i, hle, hstep⟩ := index_of_mem_items hmem
    obtain rfl := Step.index.inj hstep
    omega

end

/-! ## Values told by their scalars -/

/-- A full value has a scalar. -/
lemma scalars_ne_nil : ∀ {value : Json}, value.isFull = true → value.scalars ≠ []
  | .obj [], h => by simp [isFull] at h
  | .obj ((key, value) :: fields), h => by
    have hvalue : value.isFull = true := by
      simp only [isFull, areFullFields, Bool.and_eq_true] at h
      exact h.2.1
    obtain ⟨p, hp⟩ := List.exists_mem_of_ne_nil _ (scalars_ne_nil hvalue)
    exact List.ne_nil_of_mem (List.mem_append_left _ (mem_under.2 ⟨rfl, hp⟩))
  | .arr [], h => by simp [isFull] at h
  | .arr (item :: items), h => by
    have hitem : item.isFull = true := by
      simp only [isFull, areFullItems, Bool.and_eq_true] at h
      exact h.2.1
    obtain ⟨p, hp⟩ := List.exists_mem_of_ne_nil _ (scalars_ne_nil hitem)
    exact List.ne_nil_of_mem (List.mem_append_left _ (mem_under.2 ⟨rfl, hp⟩))
  | .null, _ => List.cons_ne_nil _ _
  | .bool _, _ => List.cons_ne_nil _ _
  | .int _, _ => List.cons_ne_nil _ _
  | .float _, _ => List.cons_ne_nil _ _
  | .str _, _ => List.cons_ne_nil _ _

/-- Only a scalar stands at its own root. -/
lemma eq_of_root_mem {x value : Json} (h : ([], x) ∈ value.scalars) : x = value := by
  cases value with
  | obj fields => exact absurd h (nil_notMem_fields fields)
  | arr items => exact absurd h (nil_notMem_items 0 items)
  | _ => exact (Prod.mk.inj (List.mem_singleton.1 h)).2

/-- An object and an array have no scalar in common. -/
lemma fields_items_disjoint {fields : List (String × Json)} {index : ℕ} {items : List Json}
    {e : Position × Json} (h : e ∈ scalarsOfFields fields) :
    e ∉ scalarsOfItems index items := by
  intro h'
  obtain ⟨_ | ⟨step, p⟩, x⟩ := e
  · exact nil_notMem_fields fields h
  · obtain ⟨key, -, rfl⟩ := key_of_mem_fields h
    obtain ⟨i, -, hi⟩ := index_of_mem_items h'
    cases hi

/-- The first key of an object comes before the first key of one whose scalars it has. -/
lemma first_key_le {key key' : String} {value value' : Json} {fields fields' : List (String × Json)}
    (horder : InKeyOrder ((key, value) :: fields)) (hfull : value'.isFull = true)
    (h : ∀ e ∈ scalarsOfFields ((key', value') :: fields'),
      e ∈ scalarsOfFields ((key, value) :: fields)) : key ≤ key' := by
  obtain ⟨⟨p, x⟩, hp⟩ := List.exists_mem_of_ne_nil _ (scalars_ne_nil hfull)
  obtain ⟨name, hname, hstep⟩ :=
    key_of_mem_fields (h (.key key' :: p, x) (List.mem_append_left _ (mem_under.2 ⟨rfl, hp⟩)))
  obtain rfl := Step.key.inj hstep
  rcases List.mem_cons.1 hname with rfl | hmem
  · exact le_rfl
  · obtain ⟨q, hq, rfl⟩ := List.mem_map.1 hmem
    exact le_of_lt ((List.pairwise_cons.1 horder).1 q hq)

mutual

/-- A full value whose objects are in key order is told by its scalars. -/
theorem eq_of_scalars : ∀ {v w : Json}, v.isFull = true → w.isFull = true → v.Ordered →
    w.Ordered → (∀ e, e ∈ v.scalars ↔ e ∈ w.scalars) → v = w
  | .obj fields, w, hv, hw, hov, how, h => by
    cases w with
    | obj fields' =>
      simp only [isFull, Bool.and_eq_true] at hv hw
      rw [fields_eq_of_scalars hv.2 hw.2 hov.1 how.1 hov.2 how.2 h]
    | arr items =>
      -- a full object has a scalar, which stands under a key and not under an index
      obtain ⟨e, he⟩ := List.exists_mem_of_ne_nil _ (scalars_ne_nil hv)
      exact absurd ((h e).1 he) (fields_items_disjoint he)
    | _ => exact (eq_of_root_mem ((h _).2 List.mem_cons_self)).symm
  | .arr items, w, hv, hw, hov, how, h => by
    cases w with
    | obj fields =>
      obtain ⟨e, he⟩ := List.exists_mem_of_ne_nil _ (scalars_ne_nil hw)
      exact absurd ((h e).2 he) (fields_items_disjoint he)
    | arr items' =>
      simp only [isFull, Bool.and_eq_true] at hv hw
      rw [items_eq_of_scalars 0 hv.2 hw.2 hov how h]
    | _ => exact (eq_of_root_mem ((h _).2 List.mem_cons_self)).symm
  | .null, _, _, _, _, _, h => eq_of_root_mem ((h _).1 List.mem_cons_self)
  | .bool _, _, _, _, _, _, h => eq_of_root_mem ((h _).1 List.mem_cons_self)
  | .int _, _, _, _, _, _, h => eq_of_root_mem ((h _).1 List.mem_cons_self)
  | .float _, _, _, _, _, _, h => eq_of_root_mem ((h _).1 List.mem_cons_self)
  | .str _, _, _, _, _, _, h => eq_of_root_mem ((h _).1 List.mem_cons_self)

theorem fields_eq_of_scalars : ∀ {fields fields' : List (String × Json)},
    areFullFields fields = true → areFullFields fields' = true → InKeyOrder fields →
    InKeyOrder fields' → OrderedFields fields → OrderedFields fields' →
    (∀ e, e ∈ scalarsOfFields fields ↔ e ∈ scalarsOfFields fields') → fields = fields'
  | [], [], _, _, _, _, _, _, _ => rfl
  | [], (key, value) :: fields', _, hw, _, _, _, _, h => by
    simp only [areFullFields, Bool.and_eq_true] at hw
    obtain ⟨e, he⟩ := List.exists_mem_of_ne_nil _ (scalars_ne_nil hw.1)
    exact absurd ((h _).2 (List.mem_append_left _ (mem_under.2 ⟨rfl, he⟩))) List.not_mem_nil
  | (key, value) :: fields, [], hv, _, _, _, _, _, h => by
    simp only [areFullFields, Bool.and_eq_true] at hv
    obtain ⟨e, he⟩ := List.exists_mem_of_ne_nil _ (scalars_ne_nil hv.1)
    exact absurd ((h _).1 (List.mem_append_left _ (mem_under.2 ⟨rfl, he⟩))) List.not_mem_nil
  | (key, value) :: fields, (key', value') :: fields', hv, hw, horder, horder', hov, how, h => by
    simp only [areFullFields, Bool.and_eq_true] at hv hw
    -- the first keys agree, then the scalars under them, then the scalars under the other keys
    obtain rfl : key = key' := le_antisymm
      (first_key_le horder hw.1 fun e he => (h e).2 he)
      (first_key_le horder' hv.1 fun e he => (h e).1 he)
    obtain rfl := eq_of_scalars hv.1 hw.1 hov.1 how.1 fun e => by
      obtain ⟨p, x⟩ := e
      rw [← mem_first_field horder, ← mem_first_field horder', h]
    rw [fields_eq_of_scalars hv.2 hw.2 (List.pairwise_cons.1 horder).2
      (List.pairwise_cons.1 horder').2 hov.2 how.2 fun e => by
        obtain ⟨p, x⟩ := e
        rw [mem_other_fields horder, mem_other_fields horder', h]]

theorem items_eq_of_scalars : ∀ (index : ℕ) {items items' : List Json},
    areFullItems items = true → areFullItems items' = true → OrderedItems items →
    OrderedItems items' →
    (∀ e, e ∈ scalarsOfItems index items ↔ e ∈ scalarsOfItems index items') → items = items'
  | _, [], [], _, _, _, _, _ => rfl
  | _, [], item :: items', _, hw, _, _, h => by
    simp only [areFullItems, Bool.and_eq_true] at hw
    obtain ⟨e, he⟩ := List.exists_mem_of_ne_nil _ (scalars_ne_nil hw.1)
    exact absurd ((h _).2 (List.mem_append_left _ (mem_under.2 ⟨rfl, he⟩))) List.not_mem_nil
  | _, item :: items, [], hv, _, _, _, h => by
    simp only [areFullItems, Bool.and_eq_true] at hv
    obtain ⟨e, he⟩ := List.exists_mem_of_ne_nil _ (scalars_ne_nil hv.1)
    exact absurd ((h _).1 (List.mem_append_left _ (mem_under.2 ⟨rfl, he⟩))) List.not_mem_nil
  | index, item :: items, item' :: items', hv, hw, hov, how, h => by
    simp only [areFullItems, Bool.and_eq_true] at hv hw
    obtain rfl := eq_of_scalars hv.1 hw.1 hov.1 how.1 fun e => by
      obtain ⟨p, x⟩ := e
      rw [← mem_first_item index item items, ← mem_first_item index item' items', h]
    rw [items_eq_of_scalars (index + 1) hv.2 hw.2 hov.2 how.2 fun e => by
      obtain ⟨p, x⟩ := e
      rw [mem_other_items index item items, mem_other_items index item items', h]]

end

end Json

end AgenticMesh
