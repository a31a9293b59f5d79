import RemoteTail.Proofs.Remote.Headers
import RemoteTail.Proofs.Session.Relay
import RemoteTail.Proofs.Text.Order

/-!
# The headers of a session

A session puts the same headers to every read: those that the settings give, and
over them those of the command line.  Together they are what the pairs of the
settings and then those of the command line give (`requestHeaders_merge`).

To see what a server is asked for, it is made to note its requests.
-/

namespace RemoteTail

/-- The server with a record of the requests that it has been put, from the first to the last,
beside its state. -/
def Server.noting {σ : Type} (server : Server σ) : Server (σ × List HttpRequest) where
  exchange := fun request => do
    let (world, record) ← get
    let (outcome, world) := (server.exchange request).run world
    set (world, record ++ [request])
    return outcome
  pass := fun time (world, record) => (server.pass time world, record)

/-! ## Effects that keep a property -/

section

variable {σ α β : Type} {P : σ → Prop} {Q : α → Prop} {R : β → Prop}

/-- From a state with a property, an effect comes to a result with one of its own and to a state
that has kept the property. -/
def Keeps (P : σ → Prop) (Q : α → Prop) (act : StateM σ α) : Prop :=
  ∀ state, P state → Q (act.run state).1 ∧ P (act.run state).2

theorem keeps_pure {result : α} (given : Q result) : Keeps P Q (pure result : StateM σ α) :=
  fun _ kept => ⟨given, kept⟩

theorem Keeps.bind {act : StateM σ α} {further : α → StateM σ β} (keeps : Keeps P Q act)
    (others : ∀ result, Q result → Keeps P R (further result)) : Keeps P R (act >>= further) := by
  intro state kept
  obtain ⟨given, kept⟩ := keeps state kept
  exact others _ given _ kept

end

section

variable {σ : Type} {P : σ → Prop} {headers : Headers} {endpoint : Endpoint (StateM σ)}
  {exchange : HttpRequest → StateM σ (Option HttpOutcome)}

/-- Reads with some headers keep a property. -/
def Endpoint.KeepsWith (P : σ → Prop) (headers : Headers) (endpoint : Endpoint (StateM σ)) : Prop :=
  ∀ request, request.file.headers = headers → Keeps P (fun _ => True) (endpoint.read request)

theorem Url.endpoint_keepsWith
    (keeps : ∀ request : HttpRequest, request.read.file.headers = headers →
      Keeps P (fun _ => True) (exchange request)) (url : Url) :
    (url.endpoint exchange).KeepsWith P headers := by
  intro request attached
  cases url with
  | other scheme => exact keeps_pure trivial
  | http url =>
      simp only [Url.endpoint]
      split
      · exact (keeps ⟨url, request⟩ attached).bind fun _ _ => keeps_pure trivial
      · exact keeps_pure trivial

theorem TailSearch.searchBack_keeps (keeps : endpoint.KeepsWith P headers) {file : RemoteFile}
    (attached : file.headers = headers) (wanted chunkSize budget stop met : Nat) :
    Keeps P (fun _ => True) (searchBack endpoint file wanted chunkSize budget stop met) := by
  induction budget generalizing stop met with
  | zero =>
      cases stop with
      | zero => exact keeps_pure trivial
      | succ stop => exact keeps_pure trivial
  | succ budget ih =>
      cases stop with
      | zero => exact keeps_pure trivial
      | succ stop =>
          rw [searchBack]
          refine (keeps _ attached).bind ?_
          rintro (_ | error | chunk) _
          · exact keeps_pure trivial
          · exact keeps_pure trivial
          · simp only
            cases scanWindow wanted (chunk.offset + chunk.data.length) met
              (split chunk.data 0 .backward).lines with
            | inl offset => exact keeps_pure trivial
            | inr met => exact ih (stop + 1 - chunkSize) met

theorem RemoteFile.locateTail_keeps (keeps : endpoint.KeepsWith P headers) {file : RemoteFile}
    (attached : file.headers = headers) (wanted chunkSize patience : Nat) :
    Keeps P (fun _ => True) (file.locateTail endpoint wanted chunkSize patience) := by
  unfold locateTail
  have sizes : Keeps P (fun _ => True) (file.fileSize endpoint) :=
    (keeps ⟨file, .size⟩ attached).bind fun _ _ => keeps_pure trivial
  refine sizes.bind ?_
  rintro (_ | error | size) _
  · exact keeps_pure trivial
  · exact keeps_pure trivial
  · simp only
    split
    · exact keeps_pure trivial
    · exact TailSearch.searchBack_keeps keeps attached _ _ _ _ _

theorem Plan.search_keeps {plan : Plan} (keeps : endpoint.KeepsWith P plan.config.headers) :
    Keeps P (fun _ => True) (plan.search endpoint) := by
  unfold search
  cases plan.config.direction with
  | topToBottom => exact keeps_pure trivial
  | bottomToTop => exact RemoteFile.locateTail_keeps keeps rfl _ _ _

namespace Cursor

variable {c : Cursor}

theorem pop_file (c : Cursor) : c.pop.2.file = c.file := by
  unfold pop
  cases c.buffer with
  | nil => rfl
  | cons line buffer =>
      simp only
      cases c.formatter.line line with
      | error error => rfl
      | ok block => rfl

theorem resume_file (c : Cursor) (reply : Reply) : (c.resume reply).2.file = c.file := by
  cases reply with
  | error error => rfl
  | ok chunk => exact (c.absorb chunk).pop_file

/-- A pull keeps what its read keeps, and goes on with the same file. -/
theorem pull_keeps (keeps : endpoint.KeepsWith P headers) (attached : c.file.headers = headers) :
    Keeps P (fun result => ∀ pulled, result = some pulled → pulled.2.file = c.file)
      (c.pull endpoint) := by
  unfold pull
  split
  · refine keeps_pure ?_
    rintro _ ⟨⟩
    rfl
  · split
    · refine Keeps.bind (keeps ⟨c.file, _⟩ attached) fun reply _ => keeps_pure ?_
      intro pulled resumed
      obtain ⟨answered, _, rfl⟩ := Option.map_eq_some_iff.mp resumed
      exact c.resume_file answered
    · refine keeps_pure ?_
      rintro _ ⟨⟩
      exact c.pop_file

end Cursor

end

namespace Session

variable {σ : Type} {P : σ → Prop} {surroundings : Surroundings (StateM σ)} {plan : Plan}
  {headers : Headers} {c : Cursor}

/-- The exchanges with some headers keep a property, and so do waiting and printing. -/
structure KeepsWith (P : σ → Prop) (headers : Headers) (surroundings : Surroundings (StateM σ)) :
    Prop where
  exchange : ∀ request : HttpRequest, request.read.file.headers = headers →
    Keeps P (fun _ => True) (surroundings.exchange request)
  wait : ∀ time, Keeps P (fun _ => True) (surroundings.wait time)
  print : ∀ block, Keeps P (fun _ => True) (surroundings.print block)

/-- A turn keeps what its effects keep, and the next one goes on with the same file. -/
theorem turn_keeps (keeps : KeepsWith P headers surroundings)
    (attached : c.file.headers = headers) :
    Keeps P (fun outcome => ∀ next, outcome = .next next → next.file.headers = headers)
      (turn surroundings plan c) := by
  have reads := Url.endpoint_keepsWith keeps.exchange plan.url
  have pulls : Keeps P (fun result => ∀ pulled, result = some pulled → pulled.2.file = c.file)
      (c.pullUntil (plan.url.endpoint surroundings.exchange) .waiting) := by
    refine (Cursor.pull_keeps reads attached).bind fun result same => keeps_pure ?_
    rintro _ ⟨⟩
    cases result with
    | none => rfl
    | some pulled => exact same pulled rfl
  unfold turn
  refine pulls.bind ?_
  rintro (_ | ⟨pulled, next⟩) same
  · exact keeps_pure fun _ ended => by cases ended
  · have next_attached : next.file.headers = headers := by
      rw [same _ rfl]
      exact attached
    have goes_on : ∀ other, Turn.next next = .next other → other.file.headers = headers := by
      rintro _ ⟨⟩
      exact next_attached
    match pulled with
    | .ok (some block) => exact (keeps.print block).bind fun _ _ => keeps_pure goes_on
    | .ok none =>
        simp only
        split
        · refine (keeps.wait plan.pollInterval).bind fun interrupted _ => ?_
          cases interrupted with
          | true => exact keeps_pure fun _ ended => by cases ended
          | false => exact keeps_pure goes_on
        · exact keeps_pure fun _ ended => by cases ended
    | .error error =>
        cases error with
        | format _ => exact keeps_pure goes_on
        | _ => exact keeps_pure fun _ ended => by cases ended

theorem turns_keeps (keeps : KeepsWith P headers surroundings) (attached : c.file.headers = headers)
    (limit : Nat) : Keeps P (fun _ => True) (turns surroundings plan limit c) := by
  induction limit generalizing c with
  | zero => exact keeps_pure trivial
  | succ limit ih =>
      rw [turns]
      refine (turn_keeps keeps attached).bind ?_
      rintro (ending | next) others
      · exact keeps_pure trivial
      · exact ih (others next rfl)

/-- A session of a plan keeps what its effects keep with the headers of the plan. -/
theorem run_keeps {line : CommandLine} {settings : Settings}
    (keeps : ∀ plan, Plan.make line settings = .ok plan →
      KeepsWith P plan.config.headers surroundings) (limit : Nat) :
    Keeps P (fun _ => True) (run surroundings line settings limit) := by
  by_cases sound : Plan.Sound line settings
  · obtain ⟨plan, made, checks⟩ := Plan.sound_iff.mp sound
    have kept := keeps plan made
    intro state holds
    have searches := Plan.search_keeps (Url.endpoint_keepsWith kept.exchange plan.url) state holds
    rw [run_of_plan made checks]
    rcases searched : (plan.search (plan.url.endpoint surroundings.exchange)).run state with
      ⟨_ | error | offset, world⟩
    · exact ⟨trivial, by rw [searched] at searches; exact searches.2⟩
    · exact ⟨trivial, by rw [searched] at searches; exact searches.2⟩
    · rw [searched] at searches
      exact turns_keeps kept rfl limit world searches.2
  · obtain ⟨error, ends⟩ := run_of_not_sound sound
    rw [ends]
    exact keeps_pure trivial

end Session

/-! ## What a server is asked for -/

/-- An effect that is waited for leaves the server as it was or has its result on it. -/
theorem Scene.await_keeps {σ α : Type} {P : σ → Prop} {effect : StateM σ α}
    (keeps : Keeps P (fun _ => True) effect) :
    Keeps (fun scene => P scene.world) (fun _ => True) (await effect) := by
  rintro ⟨world, printed, patience, interrupted⟩ holds
  match patience with
  | some 0 => exact ⟨trivial, holds⟩
  | none => exact ⟨trivial, (keeps world holds).2⟩
  | some (waits + 1) => exact ⟨trivial, (keeps world holds).2⟩

namespace Server

variable {σ : Type}

/-- All requests that have been noted have some headers. -/
def Attached (headers : Headers) (noted : σ × List HttpRequest) : Prop :=
  ∀ request ∈ noted.2, request.read.file.headers = headers

theorem noting_keepsWith (server : Server σ) (headers : Headers) :
    Session.KeepsWith (fun scene => Attached headers scene.world) headers
      server.noting.surroundings where
  exchange := by
    intro request attached
    apply Scene.await_keeps
    rintro ⟨world, record⟩ holds
    exact ⟨trivial, List.forall_mem_append.mpr ⟨holds, List.forall_mem_singleton.mpr attached⟩⟩
  wait := by
    intro time
    refine Keeps.bind (Scene.await_keeps ?_) fun _ _ => keeps_pure trivial
    exact fun _ holds => ⟨trivial, holds⟩
  print := fun block scene holds => ⟨trivial, holds⟩

end Server

/-! ## Merging -/

namespace Plan

variable {line : CommandLine} {settings : Settings} {general special headers : Headers}

/-- The headers of a plan are what the pairs of the settings and then those of the command line
give. -/
theorem requestHeaders_of_append
    (general_given : Header.ofPairs settings.headers.entries = .ok general)
    (special_given : Header.ofPairs line.options.headers = .ok special) :
    requestHeaders line settings =
      Header.ofPairs (settings.headers.entries ++ line.options.headers) := by
  rw [Header.ofPairs_append general_given special_given, requestHeaders, Settings.requestHeaders,
    CommandLine.requestHeaders, general_given, special_given]
  rfl

end Plan

namespace Session

variable {line : CommandLine} {settings : Settings}

/-- Every read of a session has the headers of its plan. -/
theorem attached_of_run {σ : Type} {headers : Headers}
    (given : Plan.requestHeaders line settings = .ok headers) (server : Server σ) (limit : Nat)
    {scene : Scene (σ × List HttpRequest)} (unasked : scene.world.2 = []) :
    ∀ request ∈ ((run server.noting.surroundings line settings limit).run scene).2.world.2,
      request.read.file.headers = headers := by
  have keeps : ∀ plan, Plan.make line settings = .ok plan →
      KeepsWith (fun scene => Server.Attached headers scene.world) plan.config.headers
        server.noting.surroundings := by
    intro plan made
    obtain ⟨url, planned, _, planned_given, rfl⟩ := Plan.make_eq_ok_iff.mp made
    rw [given] at planned_given
    cases planned_given
    exact server.noting_keepsWith headers
  have nothing : Server.Attached headers scene.world := by
    rw [Server.Attached, unasked]
    exact List.forall_mem_nil _
  exact (run_keeps keeps limit scene nothing).2

end Session

end RemoteTail
