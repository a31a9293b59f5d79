import RemoteTail.Proofs.Tail.Search
import RemoteTail.Session

/-!
# Scenes

A scene is what surrounds a session at a moment: a server in some state, what
has been printed, and a user.  The server may do anything with a request and
with the time that passes.  The user may interrupt whenever the session waits,
for an answer or for the next poll.

In a scene, a read, a pull and the search for the tail do what they do with the
server alone, unless the user interrupts, and they print nothing either way
(`Scene.Agrees`).
-/

namespace RemoteTail

/-- A server, by what it does to its state. -/
structure Server (σ : Type) where
  /-- How a request ends. -/
  exchange : HttpRequest → StateM σ HttpOutcome
  /-- What comes of the server while some milliseconds pass. -/
  pass : Nat → σ → σ

/-- What surrounds a session at a moment. -/
structure Scene (σ : Type) where
  /-- The state of the server. -/
  world : σ
  /-- The blocks that have been printed, in order. -/
  printed : List Bytes := []
  /-- The number of waits that come to their end before the user interrupts, if the user does. -/
  patience : Option Nat := none
  /-- Whether the user has interrupted. -/
  interrupted : Bool := false

namespace Scene

variable {σ α β : Type}

/-- Waits for an effect on the server, unless the user interrupts. -/
def await (effect : StateM σ α) : StateM (Scene σ) (Option α) := do
  let scene ← get
  match scene.patience with
  | some 0 =>
    set { scene with interrupted := true }
    return none
  | patience =>
    let (answer, world) := effect.run scene.world
    set { scene with world, patience := patience.map (· - 1) }
    return some answer

end Scene

namespace Server

variable {σ : Type}

/-- The server and the user as the surroundings of a session. -/
def surroundings (server : Server σ) : Surroundings (StateM (Scene σ)) where
  exchange := fun request => Scene.await (server.exchange request)
  wait := fun time => do
    let finished ← Scene.await (modify (server.pass time))
    return finished.isNone
  print := fun block =>
    modify fun scene => { scene with printed := scene.printed ++ [block] }

/-- The endpoint behind a URL if the server alone decides. -/
def endpoint (server : Server σ) (url : Url) : Endpoint (StateM σ) :=
  url.endpoint fun request => some <$> server.exchange request

/-- Every read ends. -/
theorem exists_reply (server : Server σ) (url : Url) (request : Request) (world : σ) :
    ∃ reply world', ((server.endpoint url).read request).run world = (some reply, world') := by
  cases url with
  | other scheme => exact ⟨_, _, rfl⟩
  | http url =>
      simp only [endpoint, Url.endpoint]
      split
      · exact ⟨_, _, rfl⟩
      · exact ⟨_, _, rfl⟩

end Server

namespace Scene

variable {σ α β : Type}

/-- How an effect that comes to its end changes a scene. -/
structure LeadsTo (scene scene' : Scene σ) (world : σ) : Prop where
  world_eq : scene'.world = world
  printed_eq : scene'.printed = scene.printed
  interrupted_eq : scene'.interrupted = scene.interrupted
  patience_eq : scene.patience = none → scene'.patience = none

/-- How an effect that the user interrupts changes a scene. -/
structure BreaksOffAt (scene scene' : Scene σ) : Prop where
  impatient : scene.patience ≠ none
  interrupted_eq : scene'.interrupted = true
  printed_eq : scene'.printed = scene.printed

/-- In a scene, `act` does what `effect` does with the server alone, unless the user interrupts. -/
def Agrees (act : StateM (Scene σ) (Option α)) (effect : StateM σ (Option α)) : Prop :=
  ∀ scene, ∃ scene',
    (act.run scene = (none, scene') ∧ scene.BreaksOffAt scene') ∨
      (act.run scene = ((effect.run scene.world).1, scene') ∧
        scene.LeadsTo scene' (effect.run scene.world).2)

theorem LeadsTo.refl (scene : Scene σ) : scene.LeadsTo scene scene.world :=
  ⟨rfl, rfl, rfl, id⟩

theorem LeadsTo.trans {scene scene' scene'' : Scene σ} {world world' : σ}
    (first : scene.LeadsTo scene' world) (second : scene'.LeadsTo scene'' world') :
    scene.LeadsTo scene'' world' where
  world_eq := second.world_eq
  printed_eq := second.printed_eq.trans first.printed_eq
  interrupted_eq := second.interrupted_eq.trans first.interrupted_eq
  patience_eq := fun patient => second.patience_eq (first.patience_eq patient)

theorem LeadsTo.breaksOffAt {scene scene' scene'' : Scene σ} {world : σ}
    (first : scene.LeadsTo scene' world) (second : scene'.BreaksOffAt scene'') :
    scene.BreaksOffAt scene'' where
  impatient := fun patient => second.impatient (first.patience_eq patient)
  interrupted_eq := second.interrupted_eq
  printed_eq := second.printed_eq.trans first.printed_eq

/-- What has come to its end in a scene has done so with the server alone. -/
theorem Agrees.leadsTo {act : StateM (Scene σ) (Option α)} {effect : StateM σ (Option α)}
    (agrees : Agrees act effect) {scene scene' : Scene σ} {answer : α}
    (ended : act.run scene = (some answer, scene')) :
    ∃ world, effect.run scene.world = (some answer, world) ∧ scene.LeadsTo scene' world := by
  obtain ⟨scene'', ⟨run_eq, _⟩ | ⟨run_eq, leads⟩⟩ := agrees scene
  · rw [ended] at run_eq
    cases run_eq
  · rw [ended] at run_eq
    obtain ⟨answer_eq, rfl⟩ := Prod.mk.inj run_eq
    exact ⟨_, Prod.ext answer_eq.symm rfl, leads⟩

theorem await_agrees (effect : StateM σ α) : Agrees (await effect) (some <$> effect) := by
  rintro ⟨world, printed, patience, interrupted⟩
  match patience with
  | some 0 => exact ⟨_, .inl ⟨rfl, by simp, rfl, rfl⟩⟩
  | none => exact ⟨_, .inr ⟨rfl, rfl, rfl, rfl, fun _ => rfl⟩⟩
  | some (waits + 1) => exact ⟨_, .inr ⟨rfl, rfl, rfl, rfl, by simp⟩⟩

theorem agrees_pure (answer : Option α) :
    Agrees (pure answer : StateM (Scene σ) (Option α)) (pure answer) :=
  fun scene => ⟨scene, .inr ⟨rfl, .refl scene⟩⟩

/-- Agreement goes from step to step, if nothing follows a step without an answer. -/
theorem Agrees.bind {act : StateM (Scene σ) (Option α)} {effect : StateM σ (Option α)}
    (agrees : Agrees act effect) {further : Option α → StateM (Scene σ) (Option β)}
    {further' : Option α → StateM σ (Option β)} (stops : further none = pure none)
    (stops' : further' none = pure none)
    (agree : ∀ answer, Agrees (further (some answer)) (further' (some answer))) :
    Agrees (act >>= further) (effect >>= further') := by
  intro scene
  rw [StateT.run_bind, StateT.run_bind]
  obtain ⟨scene', ⟨run_eq, brokenOff⟩ | ⟨run_eq, leads⟩⟩ := agrees scene
  · rw [run_eq]
    exact ⟨scene', .inl ⟨congrArg (·.run scene') stops, brokenOff⟩⟩
  · rcases effected : effect.run scene.world with ⟨_ | answer, world⟩
    · rw [run_eq]
      rw [effected] at leads ⊢
      refine ⟨scene', .inr ⟨?_, ?_⟩⟩
      · change (further none).run scene' = (((further' none).run world).1, scene')
        rw [stops, stops']
        rfl
      · change scene.LeadsTo scene' ((further' none).run world).2
        rw [stops']
        exact leads
    · rw [run_eq]
      rw [effected] at leads ⊢
      obtain ⟨scene'', later⟩ := agree answer scene'
      rw [leads.world_eq] at later
      refine ⟨scene'', ?_⟩
      rcases later with ⟨run_eq, brokenOff⟩ | ⟨run_eq, leads'⟩
      · exact .inl ⟨run_eq, leads.breaksOffAt brokenOff⟩
      · exact .inr ⟨run_eq, leads.trans leads'⟩

/-- What is made of an answer makes no difference. -/
theorem Agrees.map {act : StateM (Scene σ) (Option α)} {effect : StateM σ (Option α)}
    (agrees : Agrees act effect) (make : α → β) :
    Agrees (act >>= fun answer => pure (answer.map make))
      (effect >>= fun answer => pure (answer.map make)) :=
  agrees.bind rfl rfl fun answer => agrees_pure (some (make answer))

theorem read_agrees (server : Server σ) (url : Url) (request : Request) :
    Agrees ((url.endpoint server.surroundings.exchange).read request)
      ((server.endpoint url).read request) := by
  cases url with
  | other scheme => exact agrees_pure _
  | http url =>
      simp only [Server.endpoint, Url.endpoint]
      split
      · exact (await_agrees (server.exchange ⟨url, request⟩)).map HttpOutcome.reply
      · exact agrees_pure _

variable {endpoint : Endpoint (StateM (Scene σ))} {alone : Endpoint (StateM σ)}

theorem pull_agrees (agree : ∀ request, Agrees (endpoint.read request) (alone.read request))
    (c : Cursor) : Agrees (c.pull endpoint) (c.pull alone) := by
  unfold Cursor.pull
  split
  · exact agrees_pure _
  · split
    · exact (agree ⟨c.file, .bytes c.offset c.config.chunkSize⟩).map c.resume
    · exact agrees_pure _

theorem searchBack_agrees
    (agree : ∀ request, Agrees (endpoint.read request) (alone.read request))
    (file : RemoteFile) (wanted chunkSize budget stop met : Nat) :
    Agrees (TailSearch.searchBack endpoint file wanted chunkSize budget stop met)
      (TailSearch.searchBack alone file wanted chunkSize budget stop met) := by
  induction budget generalizing stop met with
  | zero =>
      cases stop with
      | zero => exact agrees_pure _
      | succ stop => exact agrees_pure _
  | succ budget ih =>
      cases stop with
      | zero => exact agrees_pure _
      | succ stop =>
          rw [TailSearch.searchBack, TailSearch.searchBack]
          refine Agrees.bind (agree _) ?_ ?_ ?_
          · rfl
          · rfl
          rintro (error | chunk)
          · exact agrees_pure _
          · simp only
            cases TailSearch.scanWindow wanted (chunk.offset + chunk.data.length) met
              (split chunk.data 0 .backward).lines with
            | inl offset => exact agrees_pure _
            | inr met => exact ih (stop + 1 - chunkSize) met

theorem locateTail_agrees
    (agree : ∀ request, Agrees (endpoint.read request) (alone.read request))
    (file : RemoteFile) (wanted chunkSize patience : Nat) :
    Agrees (file.locateTail endpoint wanted chunkSize patience)
      (file.locateTail alone wanted chunkSize patience) := by
  unfold RemoteFile.locateTail
  have sizes := (agree ⟨file, .size⟩).map fun answered => answered.map Chunk.offset
  refine Agrees.bind sizes ?_ ?_ ?_
  · rfl
  · rfl
  rintro (error | size)
  · exact agrees_pure _
  · simp only
    split
    · exact agrees_pure _
    · exact searchBack_agrees agree file wanted chunkSize _ size 0

end Scene

end RemoteTail
