import BytePool.Proofs.Session.Veil
import BytePool.Session.Command

/-!
# Steps behind a veil

A session behind a veil holds no bytes but zeros. A command with zeros in the place of its bytes
does to it what the command itself does to the session, and the turn is the same seen through the
veil. Only the text of a region shows its bytes.
-/
namespace BytePool.Session

/-! ### The veil -/

def Answer.veil : Answer → Answer
  | .number _ => .number 0
  | .bytes content => .bytes (BytePool.veil content)
  | .region r => .region r.veil
  | .chunk c => .chunk c.veil
  | .buffer b => .buffer b.veil
  | a => a

/-- Pools, arenas and slabs hold no bytes that were put. -/
def veil (s : Session) : Session :=
  { s with
    buffers := s.buffers.map Buffer.veil
    regions := s.regions.map Region.veil
    frozen := s.frozen.map BytePool.veil
    chunks := s.chunks.map Chunk.veil }

def Turn.veil (turn : Turn) : Turn :=
  ⟨turn.outcome.map Answer.veil, turn.session.veil, turn.events⟩

def Source.veil : Source → Source
  | .data bytes => .data (BytePool.veil bytes)
  | source => source

def PoolCommand.veil : PoolCommand → PoolCommand
  | .request on asked name => .request on asked.veil name
  | command => command

def RegionCommand.veil : RegionCommand → RegionCommand
  | .new storage order source name => .new storage order source.veil name
  | command => command

def BufferCommand.veil : BufferCommand → BufferCommand
  | .wrap order source name => .wrap order source.veil name
  | .perform on operation => .perform on operation.veil
  | command => command

/-- The command with zeros in the place of its bytes and numbers. -/
def Command.veil : Command → Command
  | .pool command => .pool command.veil
  | .region command => .region command.veil
  | .buffer command => .buffer command.veil
  | command => command

/-! ### The ways a step is put together -/

section Parts
variable {s : Session} {α β : Type} {g : α → β} {name : String}

lemma veil_need {found : Option α} {found' : Option β} {next : α → Turn} {next' : β → Turn}
    (hfound : found.map g = found') (hnext : ∀ object, (next object).veil = next' (g object)) :
    (s.need found name next).veil = s.veil.need found' name next' := by
  subst hfound
  cases found with
  | none => rfl
  | some object => exact hnext object

/-- Of an object that the veil leaves as it is. -/
lemma veil_need_same {found : Option α} {next next' : α → Turn}
    (hnext : ∀ object, (next object).veil = next' object) :
    (s.need found name next).veil = s.veil.need found name next' :=
  veil_need Option.map_id' hnext

lemma veil_ask {found : Option α} {found' : Option β} {answer : α → Answer} {answer' : β → Answer}
    (hfound : found.map g = found')
    (hanswer : ∀ object, (answer object).veil = answer' (g object)) :
    (s.ask found name answer).veil = s.veil.ask found' name answer' := by
  apply veil_need hfound
  intro object
  rw [← hanswer]
  rfl

lemma veil_ask_same {found : Option α} {answer : α → Answer}
    (hanswer : ∀ object, (answer object).veil = answer object) :
    (s.ask found name answer).veil = s.veil.ask found name answer :=
  veil_ask Option.map_id' hanswer

lemma Turn.veil_ofReply {σ τ : Type} {f : σ → τ} {reply : Reply σ α} {reply' : Reply τ β}
    {keep : σ → Session} {keep' : τ → Session} {next : Session → α → Answer × Session}
    {next' : Session → β → Answer × Session} (hreply : reply.image f g = reply')
    (hkeep : ∀ state, (keep state).veil = keep' (f state))
    (hnext : ∀ s value, Prod.map Answer.veil Session.veil (next s value) = next' s.veil (g value)) :
    (Turn.ofReply reply keep next).veil = .ofReply reply' keep' next' := by
  subst hreply
  obtain ⟨_ | value, state, events⟩ := reply
  · simp [ofReply, veil, Reply.image, Reply.map, Reply.within, Except.map, hkeep]
  · have hlater := hnext (keep state) value
    simp [ofReply, veil, Reply.image, Reply.map, Reply.within, Except.map, ← hkeep, ← hlater]

lemma Source.veil_use (source : Source) {next next' : Session → List UInt8 → Turn}
    (hnext : ∀ s bytes, (next s bytes).veil = next' s.veil (BytePool.veil bytes)) :
    (source.use s next).veil = source.veil.use s.veil next' := by
  cases source with
  | data bytes => exact hnext s bytes
  | chunk name =>
    apply veil_need (g := Chunk.veil) (Names.find?_map _ _ _).symm
    intro chunk
    rw [hnext]
    simp only [Session.veil, Names.erase_map, Chunk.veil]
  | frozen name => exact veil_need (Names.find?_map _ _ _).symm (hnext s)

end Parts

variable (s : Session)

lemma veil_putBuffer (name : String) (b : Buffer) :
    (s.putBuffer name b).veil = s.veil.putBuffer name b.veil := by
  simp only [putBuffer, veil, Names.insert_map]

lemma veil_keepBuffer (name : String) (b : Buffer) :
    Prod.map Answer.veil veil (keepBuffer name s b) = keepBuffer name s.veil b.veil := by
  simp only [keepBuffer, Prod.map, Answer.veil, veil_putBuffer]

lemma find?_buffers_veil (name : String) :
    (s.buffers.find? name).map Buffer.veil = s.veil.buffers.find? name :=
  (Names.find?_map _ _ _).symm

lemma find?_regions_veil (name : String) :
    (s.regions.find? name).map Region.veil = s.veil.regions.find? name :=
  (Names.find?_map _ _ _).symm

/-! ### Pools and registries -/

lemma veil_keepPool (name : String) (made : Except Error Pool) :
    (s.keepPool name made).veil = s.veil.keepPool name made := by
  cases made <;> rfl

theorem PoolCommand.step_veil (command : PoolCommand) :
    (command.step s).veil = command.veil.step s.veil := by
  cases command with
  | new order slabCapacity name => exact s.veil_keepPool name _
  | standard name => exact s.veil_keepPool name _
  | ofOrder order name => exact s.veil_keepPool name _
  | ofSettings settings name => exact s.veil_keepPool name _
  | ofToml document name => exact s.veil_keepPool name _
  | info on => exact veil_ask_same fun _ => rfl
  | stats on => exact veil_ask_same fun _ => rfl
  | snapshot on order => exact veil_ask_same fun _ => rfl
  | text on => exact veil_ask_same fun _ => rfl
  | statsText on => exact veil_ask_same fun _ => rfl
  | same on other =>
    exact veil_need_same fun _ => veil_ask_same fun _ => rfl
  | drop on => rfl
  | request on asked name =>
    apply veil_need_same
    rintro ⟨handle, pool⟩
    exact Turn.veil_ofReply (pool.serve_veil asked) (fun _ => rfl) (veil_keepBuffer · name)
  | adoptRegion on region name =>
    apply veil_need_same
    rintro ⟨handle, pool⟩
    apply veil_need (s.find?_regions_veil region)
    intro given
    refine Turn.veil_ofReply (pool.adoptRegion_veil given) (fun pool => ?_) (veil_keepBuffer · name)
    simp only [Session.veil, Names.erase_map, id]
  | copyRegion on region name =>
    apply veil_need_same
    rintro ⟨handle, pool⟩
    apply veil_need (s.find?_regions_veil region)
    intro given
    refine Turn.veil_ofReply (pool.copyRegion_veil given) ?_ (veil_keepBuffer · name)
    rintro ⟨pool, given⟩
    simp only [Session.veil, Names.insert_map, Prod.map, id]

lemma RegistryCommand.veil_keep (name : String) (registry : Registry) :
    (keep s name registry).veil = keep s.veil name registry :=
  veil_ask_same fun _ => rfl

lemma RegistryCommand.veil_hold (name : String) (handle : Handle) :
    (hold s name handle).veil = hold s.veil name handle :=
  veil_ask_same fun _ => rfl

lemma RegistryCommand.veil_keepNew (name : String) (made : Except Error (Registry × Heap)) :
    (keepNew s name made).veil = keepNew s.veil name made := by
  cases made with
  | error e => rfl
  | ok made => exact veil_keep { s with heap := made.2 } name made.1

theorem RegistryCommand.step_veil (command : RegistryCommand) :
    (command.step s).veil = command.step s.veil := by
  cases command with
  | new slabCapacity name => exact veil_keepNew s name _
  | standard name => exact veil_keepNew s name _
  | ofSettings settings name => exact veil_keepNew s name _
  | ofToml document name => exact veil_keepNew s name _
  | clone on name => exact veil_need_same (veil_keep s name)
  | info on => exact veil_ask_same fun _ => rfl
  | text on => exact veil_ask_same fun _ => rfl
  | drop on => rfl
  | get on order name => exact veil_need_same fun registry => veil_hold s name _
  | preferred on name => exact veil_need_same fun registry => veil_hold s name _
  | resolve on order name =>
    apply veil_need_same
    intro registry
    cases registry.resolve order with
    | error e => rfl
    | ok handle => exact veil_hold s name handle

/-! ### Arenas and slabs -/

theorem ArenaCommand.step_veil (command : ArenaCommand) :
    (command.step s).veil = command.step s.veil := by
  cases command with
  | new order slabCapacity name =>
    simp only [step]
    cases Arena.new order slabCapacity <;> rfl
  | allocate on capacity name =>
    apply veil_need_same
    intro arena
    exact Turn.veil_ofReply (arena.allocate_veil capacity) (fun _ => rfl) (veil_keepBuffer · name)
  | snapshot on => exact veil_ask_same fun _ => rfl
  | text on => exact veil_ask_same fun _ => rfl
  | drop on => rfl

theorem SlabCommand.step_veil (command : SlabCommand) :
    (command.step s).veil = command.step s.veil := by
  cases command with
  | allocate id capacity name =>
    simp only [step]
    cases Slab.allocate id capacity <;> rfl
  | carve on length name =>
    apply veil_need_same
    intro slab
    refine Turn.veil_ofReply (slab.carve?_veil length) (fun _ => rfl) fun s found => ?_
    cases found with
    | none => rfl
    | some chunk => simp only [Prod.map, Answer.veil, Session.veil, Names.insert_map, Option.map]
  | text on => exact veil_ask_same fun _ => rfl
  | drop on => rfl

/-! ### Regions and buffers -/

lemma RegionCommand.veil_put (name : String) (region : Region) :
    (put s name region).veil = put s.veil name region.veil := by
  simp only [put, Session.veil, Names.insert_map]

/-- All but the text of a region. -/
theorem RegionCommand.step_veil (command : RegionCommand) (h : ∀ on, command ≠ .text on) :
    (command.step s).veil = command.veil.step s.veil := by
  cases command with
  | new storage order source name =>
    rw [step, veil, step]
    refine Source.veil_use source fun s bytes => ?_
    exact congrArg (Turn.answer _) (veil_put s name _)
  | info on => exact veil_ask (s.find?_regions_veil on) fun _ => rfl
  | readable on =>
    apply veil_ask (s.find?_regions_veil on)
    intro region
    rw [region.readable_veil]
    rfl
  | text on => exact absurd rfl (h on)
  | setPosition on position =>
    apply veil_need (s.find?_regions_veil on)
    intro region
    exact Turn.veil_ofReply (region.setPosition_veil position) (veil_put s on) fun _ _ => rfl
  | setMark on =>
    apply veil_need (s.find?_regions_veil on)
    intro region
    exact congrArg (Turn.answer _) (veil_put s on _)
  | reset on =>
    apply veil_need (s.find?_regions_veil on)
    intro region
    exact Turn.veil_ofReply region.reset_veil (veil_put s on) fun _ _ => rfl

lemma BufferCommand.veil_answer (result : Buffer.Result) :
    (answer result).veil = answer result.veil := by
  cases result <;> rfl

theorem BufferCommand.step_veil (command : BufferCommand) :
    (command.step s).veil = command.veil.step s.veil := by
  cases command with
  | empty name => exact congrArg (Turn.answer _) (s.veil_putBuffer name _)
  | wrap order source name =>
    rw [step, veil, step]
    refine Source.veil_use source fun s bytes => ?_
    have hwrap := Buffer.veil_wrapFrom order bytes 0 0
    simp only [Turn.veil, Turn.answer, Except.map, Answer.veil, veil_putBuffer, Buffer.wrap, hwrap]
  | info on => exact veil_ask (s.find?_buffers_veil on) fun _ => rfl
  | perform on operation =>
    apply veil_need (s.find?_buffers_veil on)
    intro b
    refine Turn.veil_ofReply (b.perform_veil operation) (s.veil_putBuffer on) fun s result => ?_
    simp only [Prod.map, veil_answer]
  | bytes on => exact veil_ask (s.find?_buffers_veil on) fun _ => rfl
  | text on =>
    apply veil_ask (s.find?_buffers_veil on)
    intro b
    rw [b.text?_veil]
    cases b.text? <;> rfl
  | freeze on name =>
    apply veil_need (s.find?_buffers_veil on)
    intro b
    simp only [Turn.veil, Turn.answer, Except.map, Answer.veil, Session.veil, Names.insert_map,
      Names.erase_map]
    rfl
  | drop on =>
    simp only [step, veil, Turn.veil, Turn.answer, Except.map, Answer.veil, Session.veil,
      Names.contains_map, Names.erase_map]

/-! ### Commands -/

theorem step_veil (command : Command) (h : ∀ on, command ≠ .region (.text on)) :
    (s.step command).veil = s.veil.step command.veil := by
  cases command with
  | pool command => exact command.step_veil s
  | registry command => exact command.step_veil s
  | region command => exact command.step_veil s fun on he => h on (congrArg Command.region he)
  | arena command => exact command.step_veil s
  | slab command => exact command.step_veil s
  | buffer command => exact command.step_veil s

end BytePool.Session
