import LivePage.Block.Resolve
import LivePage.Proofs.Dictionary
import Mathlib.Data.List.Nodup
/-!
# What resolving gives

Ids and references are settled block by block, with what is known so far carried along. Here the result is read off
the list of blocks: a block's id from its place, its state from the server blocks before it, and every reference from
all of them. Resolving succeeds just when ids are distinct and references name something.
-/
namespace LivePage

namespace CodeBlock

def ids (blocks : List CodeBlock) : List String := blocks.mapIdx fun i cb => cb.idAt i

def serverNames (blocks : List CodeBlock) : List String :=
  (blocks.mapIdx fun i cb => if cb.type = .server then [cb.idAt i] else []).flatten

def lastServer (blocks : List CodeBlock) : Option String := (serverNames blocks).getLast?

/-- Blocks with their ids, each with the state that the blocks before it give. -/
def resolved (blocks : List CodeBlock) : List Block :=
  blocks.mapIdx fun i cb => cb.resolve (cb.idAt i) (lastServer (blocks.take i))

/-- The references of a block name something, when some names are those of the page's server blocks and one is that
of the last server block before it. A block without state has a source. -/
structure Bound (sources : Dictionary SourceConfig) (servers : List String) (last : Option String) (cb : CodeBlock) :
    Prop where
  source : ∀ name, cb.sourceRef = some name → name ∈ sources.names
  state : ∀ name, cb.stateRef last = some name → name ∈ servers
  some_ref : cb.stateRef last = none → cb.sourceRef.isSome

variable {before after blocks : List CodeBlock} {cb : CodeBlock} {last : Option String} {id : String}

theorem ids_concat : ids (before ++ [cb]) = ids before ++ [cb.idAt before.length] := List.mapIdx_concat

theorem serverNames_concat : serverNames (before ++ [cb]) =
    serverNames before ++ if cb.type = .server then [cb.idAt before.length] else [] := by
  rw [serverNames, List.mapIdx_concat, List.flatten_append, List.flatten_singleton, ← serverNames]

theorem lastServer_concat : lastServer (before ++ [cb]) =
    if cb.type = .server then some (cb.idAt before.length) else lastServer before := by
  unfold lastServer
  rw [serverNames_concat]
  split_ifs <;> simp

theorem resolved_concat : resolved (before ++ [cb]) =
    resolved before ++ [cb.resolve (cb.idAt before.length) (lastServer before)] := by
  unfold resolved
  rw [List.mapIdx_concat, List.take_left]
  congr 1
  refine List.mapIdx_eq_mapIdx_iff.2 fun i hi => ?_
  rw [List.take_append_of_le_length (Nat.le_of_lt hi)]

@[simp] theorem id_resolve : (cb.resolve id last).id = id := by
  unfold resolve
  split <;> rfl

@[simp] theorem line_resolve : (cb.resolve id last).line = cb.line := by
  unfold resolve
  split <;> rfl

@[simp] theorem type_resolve : (cb.resolve id last).type = cb.type := by
  unfold resolve
  split <;> simp_all [Block.type]

theorem getElem?_resolved {i : Nat} :
    (resolved blocks)[i]? = blocks[i]?.map fun cb => cb.resolve (cb.idAt i) (lastServer (blocks.take i)) :=
  List.getElem?_mapIdx

theorem ids_resolved : (resolved blocks).map (·.id) = ids blocks := by
  refine List.ext_getElem? fun i => ?_
  simp only [resolved, ids, List.getElem?_map, List.getElem?_mapIdx, Option.map_map, Function.comp_def, id_resolve]

theorem mem_resolved_iff {b : Block} : b ∈ resolved blocks ↔
    ∃ i, ∃ cb : CodeBlock, blocks[i]? = some cb ∧ cb.resolve (cb.idAt i) (lastServer (blocks.take i)) = b := by
  simp only [List.mem_iff_getElem?, getElem?_resolved, Option.map_eq_some_iff]

theorem mem_serverNames_iff {name : String} :
    name ∈ serverNames blocks ↔ ∃ i, ∃ cb : CodeBlock, blocks[i]? = some cb ∧ cb.type = .server ∧ cb.idAt i = name := by
  rw [serverNames, List.mem_flatten]
  simp only [List.mem_iff_getElem? (l := blocks.mapIdx _), List.getElem?_mapIdx, Option.map_eq_some_iff]
  constructor
  · rintro ⟨_, ⟨i, cb, hcb, rfl⟩, hname⟩
    split_ifs at hname with htype
    · exact ⟨i, cb, hcb, htype, (List.mem_singleton.1 hname).symm⟩
    · cases hname
  · rintro ⟨i, cb, hcb, htype, rfl⟩
    exact ⟨_, ⟨i, cb, hcb, rfl⟩, by simp [htype]⟩

/-- A name of a server block is the id of one of the resolved blocks, which is a server block. -/
theorem exists_server {name : String} (h : name ∈ serverNames blocks) : ∃ s, .server s ∈ resolved blocks ∧ s.id = name := by
  obtain ⟨i, cb, hcb, htype, rfl⟩ := mem_serverNames_iff.1 h
  exact ⟨⟨cb.idAt i, cb.language, cb.content, cb.metadata, cb.flags, cb.line⟩,
    mem_resolved_iff.2 ⟨i, cb, hcb, by rw [resolve, htype]⟩, rfl⟩

/-- An interactive block among resolved ones has the references of a collected one. -/
theorem exists_of_interactive {b : InteractiveBlock} (h : .interactive b ∈ resolved blocks) :
    ∃ i, ∃ cb : CodeBlock, blocks[i]? = some cb ∧ cb.type = .lvt ∧ b.stateRef = cb.stateRef (lastServer (blocks.take i)) := by
  obtain ⟨i, cb, hcb, hresolve⟩ := mem_resolved_iff.1 h
  have hlvt : cb.type = .lvt := by
    have htype : (cb.resolve (cb.idAt i) (lastServer (blocks.take i))).type = cb.type := type_resolve
    rw [← htype, hresolve]
    rfl
  rw [resolve, hlvt, Block.interactive.injEq] at hresolve
  exact ⟨i, cb, hcb, hlvt, by rw [← hresolve]⟩

end CodeBlock

namespace BlockSet

open CodeBlock

variable {sources : Dictionary SourceConfig} {before rest blocks : List CodeBlock} {cb : CodeBlock}
  {set set' : BlockSet} {servers : List String} {fault : ResolveFault} {line : Nat}

/-! ## Settling ids and states -/

/-- A set holds the blocks that come before some place, resolved. -/
structure Holds (set : BlockSet) (before : List CodeBlock) : Prop where
  blocks : set.blocks = resolved before
  serverIds : ∀ name, set.serverIds.contains name = true ↔ name ∈ serverNames before
  nodup : (ids before).Nodup

/-- A block has the id of one before it, while no two of those before it have one id; a fault names the earlier
block. -/
def RepeatsId (blocks : List CodeBlock) (i : Nat) (fault : ResolveFault) (line : Nat) : Prop :=
  ∃ cb j first, blocks[i]? = some cb ∧ line = cb.line ∧ (ids (blocks.take i)).Nodup ∧
    j < i ∧ blocks[j]? = some first ∧ first.idAt j = cb.idAt i ∧ fault = .duplicateId (cb.idAt i) first.line

/-- The references of the block at a place, if it is interactive, name something. -/
def BoundAt (sources : Dictionary SourceConfig) (blocks : List CodeBlock) (i : Nat) : Prop :=
  ∀ cb, blocks[i]? = some cb → cb.type = .lvt → Bound sources (serverNames blocks) (lastServer (blocks.take i)) cb

theorem RepeatsId.not_nodup {i : Nat} (h : RepeatsId blocks i fault line) : ¬ (ids blocks).Nodup := by
  obtain ⟨cb, j, first, hcb, -, -, hj, hfirst, hid, -⟩ := h
  have hget (k : Nat) : (ids blocks)[k]? = blocks[k]?.map fun cb => cb.idAt k := List.getElem?_mapIdx
  have hsame : (ids blocks)[j]? = (ids blocks)[i]? := by rw [hget, hget, hcb, hfirst, Option.map_some, Option.map_some, hid]
  have hlt : i < (ids blocks).length := by
    rw [ids, List.length_mapIdx]
    exact (List.getElem?_eq_some_iff.1 hcb).1
  exact fun hnodup => List.nodup_iff_getElem?_ne_getElem?.1 hnodup j i hj hlt hsame

theorem holds_empty : Holds {} [] := ⟨rfl, by simp [serverNames, Dictionary.contains, Dictionary.find?], by simp [ids]⟩

theorem Holds.push (h : set.Holds before) (hid : cb.idAt before.length ∉ ids before) :
    (set.push (cb.resolve (cb.idAt before.length) (lastServer before))).Holds (before ++ [cb]) where
  blocks := by
    rw [resolved_concat, ← h.blocks]
    unfold BlockSet.push
    dsimp only
    split <;> rfl
  serverIds name := by
    rw [serverNames_concat, List.mem_append, ← h.serverIds]
    unfold BlockSet.push CodeBlock.resolve
    cases cb.type with
    | server =>
      dsimp only
      rw [Dictionary.contains_iff, Dictionary.mem_names_insert, Dictionary.contains_iff]
      simp [or_comm]
    | wasm => simp
    | lvt => simp
  nodup := by
    rw [ids_concat, List.nodup_append]
    exact ⟨h.nodup, List.nodup_singleton _, fun a ha b hb => by rintro rfl; exact hid (List.mem_singleton.1 hb ▸ ha)⟩

/-- **All blocks are resolved, or one of them is the first that repeats an id.** -/
theorem collect_spec (rest : List CodeBlock) (h : set.Holds before) :
    match collect rest before.length (lastServer before) set with
    | .ok set' => set'.Holds (before ++ rest)
    | .error (fault, line) => ∃ i, RepeatsId (before ++ rest) i fault line := by
  induction rest generalizing before set with
  | nil => simpa [collect] using h
  | cons cb rest ih =>
    rw [collect]
    cases hfind : set.blocks.find? (·.id == cb.idAt before.length) with
    | some b =>
      obtain ⟨hid, as, bs, hblocks, -⟩ := List.find?_eq_some_iff_append.1 hfind
      have hb : (resolved before)[as.length]? = some b := by rw [← h.blocks, hblocks]; simp
      rw [getElem?_resolved] at hb
      obtain ⟨first, hfirst, rfl⟩ := Option.map_eq_some_iff.1 hb
      rw [id_resolve, beq_iff_eq] at hid
      have hlt : as.length < before.length := (List.getElem?_eq_some_iff.1 hfirst).1
      refine ⟨before.length, cb, as.length, first, by simp, rfl, by simpa using h.nodup, hlt, ?_, hid, ?_⟩
      · rw [List.getElem?_append_left hlt, hfirst]
      · rw [line_resolve]
    | none =>
      have hid : cb.idAt before.length ∉ ids before := by
        rw [← ids_resolved, ← h.blocks, List.mem_map]
        rintro ⟨b, hb, heq⟩
        exact absurd (List.find?_eq_none.1 hfind b hb) (by simp [heq])
      have hnext := ih (h.push hid)
      rw [lastServer_concat, List.length_append, List.append_assoc] at hnext
      exact hnext

/-! ## Checking references -/

/-- A set that holds all blocks of a page finds no fault in an interactive block just when its references name
something. -/
theorem faultOf?_eq_none_iff (sources : Dictionary SourceConfig) (cb : CodeBlock) (id : String) (last : Option String)
    (h : set.Holds blocks) :
    set.faultOf? sources ⟨id, cb.stateRef last, cb.sourceRef, cb.content, cb.metadata, cb.flags, cb.line⟩ = none ↔
      Bound sources (serverNames blocks) last cb := by
  have hbound : Bound sources (serverNames blocks) last cb ↔
      (∀ name, cb.sourceRef = some name → name ∈ sources.names) ∧
      (∀ name, cb.stateRef last = some name → name ∈ serverNames blocks) ∧
      (cb.stateRef last = none → cb.sourceRef.isSome) :=
    ⟨fun h => ⟨h.source, h.state, h.some_ref⟩, fun h => ⟨h.1, h.2.1, h.2.2⟩⟩
  rw [faultOf?, Option.or_eq_none_iff, hbound]
  refine and_congr ?_ ?_
  · cases cb.sourceRef with
    | none => simp
    | some name => simp [Dictionary.contains_iff]
  · cases cb.stateRef last with
    | none => cases cb.sourceRef <;> simp
    | some name => simp [h.serverIds]

/-- The fault of one resolved block, if it is interactive. -/
theorem fault_resolve (sources : Dictionary SourceConfig) (cb : CodeBlock) (id : String) (last : Option String)
    (h : set.Holds blocks) :
    match (cb.resolve id last).interactive?.bind fun i => (set.faultOf? sources i).map fun f => (f, i.line) with
    | none => cb.type = .lvt → Bound sources (serverNames blocks) last cb
    | some (_, line) => cb.type = .lvt ∧ ¬ Bound sources (serverNames blocks) last cb ∧ line = cb.line := by
  unfold CodeBlock.resolve
  cases cb.type with
  | server => simp [Block.interactive?]
  | wasm => simp [Block.interactive?]
  | lvt =>
    have hiff := faultOf?_eq_none_iff sources cb id last h
    simp only [Block.interactive?, Option.bind_some]
    cases hfault : set.faultOf? sources _ with
    | none => exact fun _ => hiff.1 hfault
    | some fault => exact ⟨trivial, fun hbound => (nomatch hfault.symm.trans (hiff.2 hbound)), rfl⟩

/-- **The first fault is that of the first interactive block with a reference that names nothing.** -/
theorem firstFault?_spec (sources : Dictionary SourceConfig) (h : set.Holds blocks) :
    match set.firstFault? sources with
    | none => ∀ i, BoundAt sources blocks i
    | some (_, line) => ∃ i cb, blocks[i]? = some cb ∧ line = cb.line ∧ ¬ BoundAt sources blocks i ∧
        ∀ j < i, BoundAt sources blocks j := by
  have hnone {i : Nat} {b : Block} (hb : set.blocks[i]? = some b)
      (hfault : (b.interactive?.bind fun x => (set.faultOf? sources x).map fun f => (f, x.line)) = none) :
      BoundAt sources blocks i := by
    intro cb hcb
    rw [h.blocks, getElem?_resolved, hcb, Option.map_some, Option.some.injEq] at hb
    subst hb
    have hspec := fault_resolve sources cb (cb.idAt i) (lastServer (blocks.take i)) h
    rwa [hfault] at hspec
  cases hfirst : set.firstFault? sources with
  | none =>
    intro i
    cases hb : set.blocks[i]? with
    | some b => exact hnone hb (List.findSome?_eq_none_iff.1 hfirst b (List.mem_of_getElem? hb))
    | none =>
      intro cb hcb
      rw [h.blocks, getElem?_resolved, hcb] at hb
      cases hb
  | some located =>
    obtain ⟨fault, line⟩ := located
    -- Blocks before the first fault have none, so their references are bound.
    obtain ⟨as, b, bs, hblocks, hfault, hbefore⟩ := List.findSome?_eq_some_iff.1 hfirst
    have hb : (resolved blocks)[as.length]? = some b := by rw [← h.blocks, hblocks]; simp
    rw [getElem?_resolved] at hb
    obtain ⟨cb, hcb, rfl⟩ := Option.map_eq_some_iff.1 hb
    have hspec := fault_resolve sources cb (cb.idAt as.length) (lastServer (blocks.take as.length)) h
    rw [hfault] at hspec
    obtain ⟨hlvt, hunbound, hline⟩ := hspec
    refine ⟨as.length, cb, hcb, hline, fun hbound => hunbound (hbound cb hcb hlvt), fun j hj => ?_⟩
    have hj' : set.blocks[j]? = some as[j] := by rw [hblocks, List.getElem?_append_left hj, List.getElem?_eq_getElem hj]
    exact hnone hj' (hbefore _ (List.getElem_mem hj))

/-! ## Resolving -/

/-- A page that resolves has all its blocks, resolved. -/
theorem holds_of_build (h : build blocks sources = .ok set) : set.Holds blocks := by
  have hcollected : match collect blocks 0 none {} with
    | .ok set' => set'.Holds blocks
    | .error (fault, line) => ∃ i, RepeatsId blocks i fault line := collect_spec blocks holds_empty
  unfold build at h
  cases hcollect : collect blocks 0 none {} with
  | error located =>
    rw [hcollect] at h
    cases h
  | ok set' =>
    rw [hcollect] at h hcollected
    dsimp only at h
    split at h
    · cases h
    · obtain rfl := Except.ok.inj h
      exact hcollected

/-- A fault is at a block of the page: one that repeats an id, or one with a reference that names nothing. -/
theorem exists_of_build_error (h : build blocks sources = .error (fault, line)) :
    ∃ i, (RepeatsId blocks i fault line ∨ ¬ BoundAt sources blocks i) ∧ ∃ cb, blocks[i]? = some cb ∧ line = cb.line := by
  have hcollected : match collect blocks 0 none {} with
    | .ok set' => set'.Holds blocks
    | .error (fault, line) => ∃ i, RepeatsId blocks i fault line := collect_spec blocks holds_empty
  unfold build at h
  split at h
  · rename_i located hcollect
    obtain rfl := Except.error.inj h
    rw [hcollect] at hcollected
    obtain ⟨i, hrepeats⟩ := hcollected
    obtain ⟨cb, j, first, hcb, hline, -⟩ := id hrepeats
    exact ⟨i, .inl hrepeats, cb, hcb, hline⟩
  · rename_i set hcollect
    rw [hcollect] at hcollected
    split at h
    · rename_i located hfault
      obtain rfl := Except.error.inj h
      have hfirst := firstFault?_spec sources hcollected
      rw [hfault] at hfirst
      obtain ⟨i, cb, hcb, hline, hunbound, -⟩ := hfirst
      exact ⟨i, .inr hunbound, cb, hcb, hline⟩
    · cases h

/-- **Resolving a page.** It succeeds just when the ids of its blocks are distinct and the references of every
interactive block name something: its source a source of the page, its state the id of some server block, earlier or
later. Then the blocks are those of the page in their order, each with its id and its references, and every state is
that of a server block. Otherwise the error is at the first block with the id of an earlier one, or, if there is none,
at the first interactive block with a reference that names nothing or with none. -/
theorem build_spec (blocks : List CodeBlock) (sources : Dictionary SourceConfig) :
    ((∃ set, build blocks sources = .ok set) ↔ (ids blocks).Nodup ∧ ∀ i, BoundAt sources blocks i) ∧
    (∀ set, build blocks sources = .ok set → set.blocks = resolved blocks ∧ set.blocks.map (·.id) = ids blocks ∧
      ∀ b name, .interactive b ∈ set.blocks → b.stateRef = some name → ∃ s, .server s ∈ set.blocks ∧ s.id = name) ∧
    (∀ fault line, build blocks sources = .error (fault, line) →
      (∃ i, RepeatsId blocks i fault line) ∨
      (ids blocks).Nodup ∧ ∃ i cb, blocks[i]? = some cb ∧ line = cb.line ∧ ¬ BoundAt sources blocks i ∧
        ∀ j < i, BoundAt sources blocks j) := by
  have hcollected := collect_spec blocks holds_empty
  rw [List.nil_append, show collect blocks ([] : List CodeBlock).length (lastServer []) {} = collect blocks 0 none {} from rfl]
    at hcollected
  -- Ids are settled before references are checked, so a reference is at fault only where no id repeats.
  unfold build
  cases hcollect : collect blocks 0 none {} with
  | error located =>
    rw [hcollect] at hcollected
    obtain ⟨i, hrepeats⟩ := hcollected
    refine ⟨iff_of_false (by simp) fun h => hrepeats.not_nodup h.1, by simp, ?_⟩
    intro fault line h
    obtain rfl := Except.error.inj h
    exact Or.inl ⟨i, hrepeats⟩
  | ok set =>
    rw [hcollect] at hcollected
    have hfirst := firstFault?_spec sources hcollected
    cases hfault : set.firstFault? sources with
    | some located =>
      rw [hfault] at hfirst
      refine ⟨iff_of_false (by simp [hfault]) fun h => ?_, by simp [hfault], ?_⟩
      · obtain ⟨i, cb, -, -, hunbound, -⟩ := hfirst
        exact hunbound (h.2 i)
      · intro fault line h
        simp only [hfault] at h
        obtain rfl := Except.error.inj h
        exact Or.inr ⟨hcollected.nodup, hfirst⟩
    | none =>
      rw [hfault] at hfirst
      refine ⟨iff_of_true ⟨set, by simp [hfault]⟩ ⟨hcollected.nodup, hfirst⟩, ?_, by simp [hfault]⟩
      intro set' h
      simp only [hfault] at h
      obtain rfl := Except.ok.inj h
      refine ⟨hcollected.blocks, by rw [hcollected.blocks, ids_resolved], fun b name hb hstate => ?_⟩
      rw [hcollected.blocks] at hb ⊢
      obtain ⟨i, cb, hcb, hlvt, href⟩ := exists_of_interactive hb
      exact exists_server ((hfirst i cb hcb hlvt).state name (href ▸ hstate))

def clockServer : CodeBlock := ⟨.server, "go", [], [("id", "clock")], "", 9, 5⟩

def clockFace : CodeBlock := ⟨.lvt, "lvt", [], [("state", "clock")], "", 3, 0⟩

/-- A block may name a server block further down, and two server blocks may not share a name. -/
theorem clock_resolves :
    (∃ set, build [clockFace, clockServer] [] = .ok set ∧ ∃ s, .server s ∈ set.blocks ∧ s.id = "clock") ∧
    ∃ i, RepeatsId [clockServer, clockServer] i (.duplicateId "clock" 9) 9 := by
  obtain ⟨hok, hset, -⟩ := build_spec [clockFace, clockServer] []
  have hbound (i : Nat) : BoundAt [] [clockFace, clockServer] i := by
    intro cb hcb hlvt
    match i, hcb with
    | 0, rfl =>
      refine ⟨fun name h => (nomatch h), fun name h => ?_, fun h => (nomatch h)⟩
      obtain rfl : "clock" = name := Option.some.inj h
      exact List.mem_singleton.2 rfl
    | 1, rfl => cases hlvt
  obtain ⟨set, hbuild⟩ := hok.2 ⟨by decide, hbound⟩
  obtain ⟨hblocks, -, hstate⟩ := hset set hbuild
  refine ⟨⟨set, hbuild, hstate ⟨"lvt-0", some "clock", none, "", [("state", "clock")], [], 3⟩ "clock" ?_ rfl⟩, ?_⟩
  · rw [hblocks]
    exact List.mem_cons_self
  · have herror := (build_spec [clockServer, clockServer] []).2.2 (.duplicateId "clock" 9) 9 rfl
    exact herror.resolve_right fun h => absurd h.1 (by decide)

end BlockSet

end LivePage
