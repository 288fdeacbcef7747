import LivePage.Page
import LivePage.Proofs.Block.Resolve
/-!
# Blocks by id

A page keeps its blocks in one list, and for each kind of block a dictionary from ids to places in that list. Every block
that is added gets its place under its own id, in the dictionary of its kind and in no other. So the dictionaries
share out the ids among them, and to look an id up by kind is to look it up among all blocks.
-/
namespace LivePage.BlockSet

variable {type : BlockType} {blocks : List Block} {places : Dictionary Nat} {b : Block} {id : String} {place : Nat}
  {set : BlockSet}

/-! ## Indexes -/

/-- A dictionary names the places of the blocks of one kind by their ids, each once. -/
structure Indexes (type : BlockType) (blocks : List Block) (places : Dictionary Nat) : Prop where
  find?_iff : ∀ id place, places.find? id = some place ↔ ∃ b, blocks[place]? = some b ∧ b.type = type ∧ b.id = id
  names : places.names.Perm ((blocks.filter (·.type = type)).map (·.id))

theorem getElem?_concat_iff {b' : Block} :
    (blocks ++ [b])[place]? = some b' ↔ blocks[place]? = some b' ∨ place = blocks.length ∧ b = b' := by
  rcases Nat.lt_trichotomy place blocks.length with hlt | rfl | hgt
  · rw [List.getElem?_append_left hlt]
    simp [Nat.ne_of_lt hlt]
  · simp
  · have hnone : blocks[place]? = none := List.getElem?_eq_none (Nat.le_of_lt hgt)
    have hnone' : (blocks ++ [b])[place]? = none := List.getElem?_eq_none (by rw [List.length_append]; exact hgt)
    rw [hnone, hnone']
    simp [Nat.ne_of_gt hgt]

/-- What is at a place is not changed by a block that is not looked for. -/
theorem exists_concat_iff (h : b.type = type → b.id ≠ id) :
    (∃ b', (blocks ++ [b])[place]? = some b' ∧ b'.type = type ∧ b'.id = id) ↔
      ∃ b', blocks[place]? = some b' ∧ b'.type = type ∧ b'.id = id := by
  refine exists_congr fun b' => ?_
  rw [getElem?_concat_iff]
  constructor
  · rintro ⟨hb' | ⟨-, rfl⟩, htype, hid⟩
    · exact ⟨hb', htype, hid⟩
    · exact absurd hid (h htype)
  · rintro ⟨hb', hrest⟩
    exact ⟨.inl hb', hrest⟩

theorem Indexes.concat (h : Indexes type blocks places) (hnew : b.id ∉ blocks.map (·.id)) :
    Indexes type (blocks ++ [b]) (if b.type = type then places.insert b.id blocks.length else places) where
  find?_iff id place := by
    split_ifs with htype
    · by_cases hid : id = b.id
      · subst hid
        rw [Dictionary.find?_insert_self, Option.some.injEq]
        simp only [getElem?_concat_iff]
        constructor
        · rintro rfl
          exact ⟨b, .inr ⟨rfl, rfl⟩, htype, rfl⟩
        · rintro ⟨b', hb' | ⟨rfl, -⟩, -, hid⟩
          · exact absurd (hid ▸ List.mem_map_of_mem (List.mem_of_getElem? hb')) hnew
          · rfl
      · rw [Dictionary.find?_insert_ne hid, h.find?_iff, exists_concat_iff fun _ => Ne.symm hid]
    · rw [h.find?_iff, exists_concat_iff fun htype' => absurd htype' htype]
  names := by
    rw [List.filter_append, List.map_append]
    split_ifs with htype
    · have hfree : b.id ∉ places.names := fun hmem => by
        obtain ⟨b', hb', hid⟩ := List.mem_map.1 (h.names.mem_iff.1 hmem)
        exact hnew (hid ▸ List.mem_map_of_mem (List.mem_filter.1 hb').1)
      have hinsert : (places.insert b.id blocks.length).names.Perm (b.id :: places.names) :=
        (Dictionary.perm_insert hfree).map _
      have hone : ([b].filter (·.type = type)).map (·.id) = [b.id] := by simp [htype]
      rw [hone]
      exact hinsert.trans ((h.names.cons b.id).trans (List.perm_append_singleton b.id _).symm)
    · simpa [htype] using h.names

/-! ## Sets of blocks -/

/-- The places of the blocks of one kind. -/
def placesOf (set : BlockSet) : BlockType → Dictionary Nat
  | .server => set.serverIds
  | .wasm => set.wasmIds
  | .lvt => set.interactiveIds

/-- Blocks have different ids, and there is an index for each kind of them. -/
structure Indexed (set : BlockSet) : Prop where
  nodup : (set.blocks.map (·.id)).Nodup
  indexes : ∀ type, Indexes type set.blocks (set.placesOf type)

theorem blocks_push : (set.push b).blocks = set.blocks ++ [b] := by cases b <;> rfl

theorem placesOf_push : (set.push b).placesOf type =
    if b.type = type then (set.placesOf type).insert b.id set.blocks.length else set.placesOf type := by
  cases b <;> cases type <;> rfl

theorem indexed_empty : Indexed {} where
  nodup := List.nodup_nil
  indexes type := by
    cases type <;> exact ⟨fun id place => by simp [placesOf, Dictionary.find?], .refl _⟩

theorem Indexed.push (h : set.Indexed) (hnew : b.id ∉ set.blocks.map (·.id)) : (set.push b).Indexed where
  nodup := by
    rw [blocks_push, List.map_append]
    exact (List.perm_append_singleton b.id _).nodup_iff.2 (List.nodup_cons.2 ⟨hnew, h.nodup⟩)
  indexes type := by
    rw [blocks_push, placesOf_push]
    exact (h.indexes type).concat hnew

/-- **Blocks that are collected are indexed**, since each has an id that no block before it has. -/
theorem indexed_of_collect {rest : List CodeBlock} {index : Nat} {last : Option String} {set' : BlockSet}
    (h : set.Indexed) (hcollect : collect rest index last set = .ok set') : set'.Indexed := by
  induction rest generalizing index last set with
  | nil =>
    obtain rfl := Except.ok.inj hcollect
    exact h
  | cons cb rest ih =>
    rw [collect] at hcollect
    cases hfind : set.blocks.find? (·.id == cb.idAt index) with
    | some first =>
      rw [hfind] at hcollect
      cases hcollect
    | none =>
      rw [hfind] at hcollect
      refine ih (h.push ?_) hcollect
      rw [CodeBlock.id_resolve, List.mem_map]
      rintro ⟨b, hb, hid⟩
      exact absurd (List.find?_eq_none.1 hfind b hb) (by simp [hid])

theorem indexed_of_build {blocks : List CodeBlock} {sources : Dictionary SourceConfig}
    (h : build blocks sources = .ok set) : set.Indexed := by
  unfold build at h
  cases hcollect : collect blocks 0 none {} with
  | error located =>
    rw [hcollect] at h
    cases h
  | ok set' =>
    rw [hcollect] at h
    dsimp only at h
    split at h
    · cases h
    · obtain rfl := Except.ok.inj h
      exact indexed_of_collect indexed_empty hcollect

/-! ## Looking up -/

namespace Indexed

theorem block?_eq_some_iff (h : set.Indexed) : set.block? id = some b ↔ b ∈ set.blocks ∧ b.id = id := by
  unfold block?
  constructor
  · intro hb
    have hid := List.find?_some hb
    exact ⟨List.mem_of_find?_eq_some hb, by simpa using hid⟩
  · rintro ⟨hb, rfl⟩
    cases hfind : set.blocks.find? (·.id == b.id) with
    | none => exact absurd (List.find?_eq_none.1 hfind b hb) (by simp)
    | some first =>
      have hid := List.find?_some hfind
      rw [List.inj_on_of_nodup_map h.nodup (List.mem_of_find?_eq_some hfind) hb (by simpa using hid)]

/-- To look a block up by kind is to look it up and to see that it is of that kind. -/
theorem indexed?_eq_some_iff (h : set.Indexed) (type : BlockType) :
    set.indexed? (set.placesOf type) id = some b ↔ set.block? id = some b ∧ b.type = type := by
  rw [h.block?_eq_some_iff, indexed?, Option.bind_eq_some_iff]
  constructor
  · rintro ⟨place, hplace, hb⟩
    obtain ⟨b', hb', htype, hid⟩ := ((h.indexes type).find?_iff id place).1 hplace
    obtain rfl : b' = b := Option.some.inj (hb'.symm.trans hb)
    exact ⟨⟨List.mem_of_getElem? hb, hid⟩, htype⟩
  · rintro ⟨⟨hb, hid⟩, htype⟩
    obtain ⟨place, hplace⟩ := List.mem_iff_getElem?.1 hb
    exact ⟨place, ((h.indexes type).find?_iff id place).2 ⟨b, hplace, htype, hid⟩, hplace⟩

/-- A look-up by kind gives the content of the block with an id, if the block is of that kind. -/
theorem bind_indexed?_eq_some_iff {α : Type} {content? : Block → Option α} {make : α → Block} {x : α}
    (h : set.Indexed) (type : BlockType) (hmake : ∀ b x, content? b = some x ↔ b = make x)
    (htype : ∀ x, (make x).type = type) :
    (set.indexed? (set.placesOf type) id).bind content? = some x ↔ set.block? id = some (make x) := by
  rw [Option.bind_eq_some_iff]
  simp only [hmake, h.indexed?_eq_some_iff type]
  constructor
  · rintro ⟨b, ⟨hb, -⟩, rfl⟩
    exact hb
  · exact fun hb => ⟨make x, ⟨hb, htype x⟩, rfl⟩

theorem serverBlock?_eq_some_iff (h : set.Indexed) {s : ServerBlock} :
    set.serverBlock? id = some s ↔ set.block? id = some (.server s) :=
  h.bind_indexed?_eq_some_iff .server (fun b x => by cases b <;> simp [Block.server?]) fun _ => rfl

theorem wasmBlock?_eq_some_iff (h : set.Indexed) {w : WasmBlock} :
    set.wasmBlock? id = some w ↔ set.block? id = some (.wasm w) :=
  h.bind_indexed?_eq_some_iff .wasm (fun b x => by cases b <;> simp [Block.wasm?]) fun _ => rfl

theorem interactiveBlock?_eq_some_iff (h : set.Indexed) {i : InteractiveBlock} :
    set.interactiveBlock? id = some i ↔ set.block? id = some (.interactive i) :=
  h.bind_indexed?_eq_some_iff .lvt (fun b x => by cases b <;> simp [Block.interactive?]) fun _ => rfl

end Indexed

/-- Which look-ups by kind find something for an id: as server code, as student code, as live interface. -/
def found (set : BlockSet) (id : String) : List Bool :=
  [(set.serverBlock? id).isSome, (set.wasmBlock? id).isSome, (set.interactiveBlock? id).isSome]

/-- An id is found by just one kind, that of the block which has it, if there is such a block. -/
theorem Indexed.found_eq (h : set.Indexed) (id : String) :
    set.found id = [.server, .wasm, .lvt].map fun type => (set.block? id).any (·.type == type) := by
  have hfound {α : Type} {answer : Option α} {make : α → Block} {type : BlockType}
      (hiff : ∀ x, answer = some x ↔ set.block? id = some (make x)) (htype : ∀ b, b.type = type ↔ ∃ x, b = make x) :
      answer.isSome = (set.block? id).any (·.type == type) := by
    rw [Bool.eq_iff_iff, Option.isSome_iff_exists, Option.any_eq_true]
    simp only [hiff, beq_iff_eq, htype]
    constructor
    · rintro ⟨x, hx⟩
      exact ⟨make x, hx, x, rfl⟩
    · rintro ⟨b, hb, x, rfl⟩
      exact ⟨x, hb⟩
  have hserver := hfound (fun s => h.serverBlock?_eq_some_iff) fun b => by
    show b.type = .server ↔ _
    cases b <;> simp [Block.type]
  have hwasm := hfound (fun w => h.wasmBlock?_eq_some_iff) fun b => by
    show b.type = .wasm ↔ _
    cases b <;> simp [Block.type]
  have hinteractive := hfound (fun i => h.interactiveBlock?_eq_some_iff) fun b => by
    show b.type = .lvt ↔ _
    cases b <;> simp [Block.type]
  rw [found, hserver, hwasm, hinteractive]
  rfl

/-- What is found for an id: a block by kind just where it is found among all blocks, as what it is and as nothing
else; and nothing for an id that no block has. -/
structure FoundByKind (set : BlockSet) (id : String) : Prop where
  server_iff : ∀ s, set.serverBlock? id = some s ↔ set.block? id = some (.server s)
  wasm_iff : ∀ w, set.wasmBlock? id = some w ↔ set.block? id = some (.wasm w)
  interactive_iff : ∀ i, set.interactiveBlock? id = some i ↔ set.block? id = some (.interactive i)
  isSome_iff : (set.block? id).isSome ↔ (set.found id).count true = 1
  absent : id ∉ set.blocks.map (·.id) → set.block? id = none ∧ set.found id = [false, false, false]

theorem Indexed.foundByKind (h : set.Indexed) (id : String) : set.FoundByKind id where
  server_iff _ := h.serverBlock?_eq_some_iff
  wasm_iff _ := h.wasmBlock?_eq_some_iff
  interactive_iff _ := h.interactiveBlock?_eq_some_iff
  isSome_iff := by
    rw [h.found_eq]
    cases set.block? id with
    | none => decide
    | some b => cases b <;> simp [Block.type]
  absent hid := by
    have hnone : set.block? id = none := Option.eq_none_iff_forall_ne_some.2 fun b hb => by
      obtain ⟨hmem, hb⟩ := h.block?_eq_some_iff.1 hb
      exact hid (hb ▸ List.mem_map_of_mem hmem)
    rw [h.found_eq, hnone]
    exact ⟨rfl, rfl⟩

/-- Blocks fall into those of the three kinds. -/
theorem perm_filter_type (blocks : List Block) :
    (blocks.filter (·.type = .server) ++ blocks.filter (·.type = .wasm) ++ blocks.filter (·.type = .lvt)).Perm blocks := by
  induction blocks with
  | nil => exact .refl _
  | cons b blocks ih =>
    cases b with
    | server s => exact ih.cons (.server s)
    | wasm w =>
      show (blocks.filter (·.type = .server) ++ .wasm w :: blocks.filter (·.type = .wasm)
        ++ blocks.filter (·.type = .lvt)).Perm _
      refine (List.perm_middle.append_right _).trans ?_
      rw [List.cons_append]
      exact ih.cons (.wasm w)
    | interactive i =>
      show (blocks.filter (·.type = .server) ++ blocks.filter (·.type = .wasm)
        ++ .interactive i :: blocks.filter (·.type = .lvt)).Perm _
      exact List.perm_middle.trans (ih.cons (.interactive i))

/-- **A page finds its blocks.** If the blocks of a page resolve, each is found by its id. An id is found by kind just
where it is found among all blocks, by one kind alone, as the same block. The dictionaries of the three kinds have all
ids of the page between them, each in one of them and once. -/
theorem build_indexed {blocks : List CodeBlock} {sources : Dictionary SourceConfig} (h : build blocks sources = .ok set) :
    (∀ b ∈ set.blocks, set.block? b.id = some b) ∧ (∀ id, set.FoundByKind id) ∧
    (set.serverIds.names ++ set.wasmIds.names ++ set.interactiveIds.names).Nodup ∧
    set.serverIds.length + set.wasmIds.length + set.interactiveIds.length = set.blocks.length := by
  have hindexed := indexed_of_build h
  have hnames : (set.serverIds.names ++ set.wasmIds.names ++ set.interactiveIds.names).Perm (set.blocks.map (·.id)) := by
    have hkinds := (((hindexed.indexes .server).names.append (hindexed.indexes .wasm).names).append
      (hindexed.indexes .lvt).names)
    rw [← List.map_append, ← List.map_append] at hkinds
    exact hkinds.trans ((perm_filter_type set.blocks).map _)
  refine ⟨fun b hb => hindexed.block?_eq_some_iff.2 ⟨hb, rfl⟩, hindexed.foundByKind, hnames.nodup_iff.2 hindexed.nodup, ?_⟩
  simpa [Dictionary.names, Nat.add_assoc] using hnames.length_eq

/-- A block of student code without an id of its own. -/
def plainScratch : CodeBlock := ⟨.wasm, "rust", [], [], "", 12, 9⟩

/-- The place in a generated id counts the blocks of all kinds. -/
theorem plainScratch_indexed : ∃ set, build [clockFace, clockServer, plainScratch] [] = .ok set ∧
    (∃ w, set.block? "wasm-2" = some (.wasm w) ∧ set.wasmBlock? "wasm-2" = some w) ∧
    set.found "wasm-3" = [false, false, false] ∧
    set.serverIds.length + set.wasmIds.length + set.interactiveIds.length = 3 := by
  obtain ⟨set, hbuild⟩ : ∃ set, build [clockFace, clockServer, plainScratch] [] = .ok set := ⟨_, rfl⟩
  obtain ⟨hblocks, hfound, -, hlength⟩ := build_indexed hbuild
  have hset : set.blocks = CodeBlock.resolved [clockFace, clockServer, plainScratch] := (holds_of_build hbuild).blocks
  have hscratch : (plainScratch.resolve "wasm-2" (some "clock")) ∈ set.blocks := by
    rw [hset]
    decide
  have habsent : "wasm-3" ∉ set.blocks.map (·.id) := by
    rw [hset]
    decide
  refine ⟨set, hbuild, ⟨_, hblocks _ hscratch, ((hfound _).wasm_iff _).2 (hblocks _ hscratch)⟩, ((hfound _).absent habsent).2, ?_⟩
  rw [hlength, hset]
  rfl

end LivePage.BlockSet
