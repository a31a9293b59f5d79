import RemoteTail.Proofs.Cursor.Pull
import RemoteTail.Proofs.Cursor.Start
import RemoteTail.Simulation.Service

/-!
# Block sequences and successive pulls

A sequence of blocks is made of the results of successive pulls, and of nothing
else: the pulls are those that a reader would make by hand, each on the cursor that
the one before it has left.  `Successive` says what it is for steps to follow one
another, and `collect_run_eq_some_iff` what a sequence takes of their results.

A followed sequence leaves out the ends of the data.  Its patience bounds how many
of them it passes over at a time, and says nothing about what it yields: a
result that some patience is enough for is the same with every greater one.

What happens to the file and to the connection meanwhile is in the world, which
reads and waits may change in any way.
-/

namespace RemoteTail

/-- Whether a result is the end of the data. -/
def Pulled.isEnd : Pulled → Bool
  | .ok none => true
  | _ => false

/-- Results without the ends of the data among them. -/
def Pulled.withoutEnds (results : List Pulled) : List Pulled :=
  results.filter fun pulled => !Pulled.isEnd pulled

theorem Pulled.withoutEnds_cons_of_found {pulled : Pulled} (on : Pulled.isEnd pulled = false)
    (results : List Pulled) : withoutEnds (pulled :: results) = pulled :: withoutEnds results := by
  rw [withoutEnds, List.filter_cons_of_pos (by simp [on]), withoutEnds]

theorem Pulled.withoutEnds_passed {pulled : Pulled} (on : Pulled.isEnd pulled = false)
    (count : Nat) (results : List Pulled) :
    withoutEnds (List.replicate count (.ok none) ++ [pulled] ++ results) =
      pulled :: withoutEnds results := by
  rw [List.append_assoc, List.singleton_append]
  induction count with
  | zero => exact withoutEnds_cons_of_found on results
  | succ count ih => exact ih

/-- Something is left of results whose last one is no end of the data. -/
theorem Pulled.withoutEnds_ne_nil {results : List Pulled} (some_result : results ≠ [])
    (last_ne : results.getLast? ≠ some (.ok none)) : withoutEnds results ≠ [] := by
  have last_mem := List.getLast_mem some_result
  rw [List.getLast?_eq_some_getLast some_result] at last_ne
  apply List.ne_nil_of_mem (List.mem_filter.mpr ⟨last_mem, _⟩)
  match last : results.getLast some_result with
  | .error _ => rfl
  | .ok (some _) => rfl
  | .ok none => exact absurd (congrArg some last) last_ne

namespace Stop

/-- The result that stops a sequence, if one does. -/
def results : Stop → List Pulled
  | .ended => [.ok none]
  | .limit => []
  | .failed error => [.error error]

/-- The results of a sequence that yields blocks and then stops. -/
def resultsAfter (blocks : List Bytes) (stop : Stop) : List Pulled :=
  blocks.map (fun block => .ok (some block)) ++ stop.results

/-- Whether a sequence can stop so after blocks.  It is stopped by its limit if it has as many of them
as are wanted, and by a result if it has fewer. -/
def Fits (limit : Nat) (blocks : List Bytes) : Stop → Prop
  | .limit => blocks.length = limit
  | _ => blocks.length < limit

variable {limit : Nat} {blocks : List Bytes} {stop : Stop}

theorem fits_succ_cons_iff {block : Bytes} :
    stop.Fits (limit + 1) (block :: blocks) ↔ stop.Fits limit blocks := by
  cases stop <;> simp [Fits]

/-- If more is wanted, a sequence begins with a block or with the result that stops it. -/
theorem Fits.cases (fits : stop.Fits (limit + 1) blocks) :
    (blocks = [] ∧ stop = .ended) ∨ (∃ error, blocks = [] ∧ stop = .failed error) ∨
      ∃ block rest, blocks = block :: rest ∧ stop.Fits limit rest := by
  cases blocks with
  | cons block rest => exact .inr (.inr ⟨block, rest, rfl, fits_succ_cons_iff.mp fits⟩)
  | nil =>
      cases stop with
      | limit => cases fits
      | ended => exact .inl ⟨rfl, rfl⟩
      | failed error => exact .inr (.inl ⟨error, rfl, rfl⟩)

/-- A greater limit makes no difference unless it was the limit that stopped the sequence. -/
theorem Fits.add (fits : stop.Fits limit blocks) (settled : stop ≠ .limit) (more : Nat) :
    stop.Fits (limit + more) blocks := by
  cases stop with
  | limit => exact absurd rfl settled
  | ended => exact Nat.lt_add_right more fits
  | failed error => exact Nat.lt_add_right more fits

end Stop

namespace Cursor

variable {σ : Type}

/-! ## Steps that follow one another -/

section

variable {step other : Cursor → StateM σ (Option (Pulled × Cursor))} {c next last : Cursor}
  {world world' world'' : σ} {pulled : Pulled} {results more : List Pulled} {limit : Nat}

/-- Steps that follow one another, each of them complete: from a cursor in a world, through their
results, to the cursor and the world that they leave. -/
inductive Successive (step : Cursor → StateM σ (Option (Pulled × Cursor))) :
    Cursor → σ → List Pulled → Cursor → σ → Prop where
  /-- No step. -/
  | nil {c : Cursor} {world : σ} : Successive step c world [] c world
  /-- A step, and those that follow it. -/
  | cons {c next last : Cursor} {world world' world'' : σ} {pulled : Pulled}
      {results : List Pulled} (now : (step c).run world = (some (pulled, next), world'))
      (rest : Successive step next world' results last world'') :
      Successive step c world (pulled :: results) last world''

namespace Successive

theorem nil_iff : Successive step c world [] last world' ↔ last = c ∧ world' = world := by
  constructor
  · intro none
    cases none
    exact ⟨rfl, rfl⟩
  · rintro ⟨rfl, rfl⟩
    exact nil

/-- Steps that follow the first one are those of the cursor that it leaves. -/
theorem cons_iff (now : (step c).run world = (some (pulled, next), world')) {first : Pulled} :
    Successive step c world (first :: results) last world'' ↔
      first = pulled ∧ Successive step next world' results last world'' := by
  constructor
  · intro steps
    cases steps with
    | cons before rest =>
        rw [now] at before
        cases before
        exact ⟨rfl, rest⟩
  · rintro ⟨rfl, rest⟩
    exact cons now rest

/-- No step follows from one that is not complete. -/
theorem eq_nil (steps : Successive step c world results last world'')
    (outstanding : (step c).run world = (none, world')) : results = [] := by
  cases steps with
  | nil => rfl
  | cons now rest =>
      rw [outstanding] at now
      cases now

theorem append (first : Successive step c world results next world')
    (second : Successive step next world' more last world'') :
    Successive step c world (results ++ more) last world'' := by
  induction first with
  | nil => exact second
  | cons now _ ih => exact cons now (ih second)

theorem mono (steps : Successive step c world results last world')
    (le : ∀ {c world pulled world'}, (step c).run world = (some pulled, world') →
      (other c).run world = (some pulled, world')) :
    Successive other c world results last world' := by
  induction steps with
  | nil => exact nil
  | cons now _ ih => exact cons (le now) ih

end Successive

theorem collect_run_succ (step : Cursor → StateM σ (Option (Pulled × Cursor))) (limit : Nat)
    (c : Cursor) (world : σ) :
    (collect step (limit + 1) c).run world =
      match (step c).run world with
      | (none, world) => (none, world)
      | (some (.error error, next), world) => (some ([], .failed error, next), world)
      | (some (.ok none, next), world) => (some ([], .ended, next), world)
      | (some (.ok (some block), next), world) =>
          (((collect step limit next).run world).1.map fun (blocks, stop, last) =>
              (block :: blocks, stop, last),
            ((collect step limit next).run world).2) := by
  rw [collect, StateT.run_bind]
  rcases (step c).run world with ⟨_ | ⟨_ | _ | _, _⟩, _⟩ <;> rfl

/-- What is collected: the blocks of successive steps, up to the first result that is none. -/
theorem collect_run_eq_some_iff {blocks : List Bytes} {stop : Stop} :
    (collect step limit c).run world = (some (blocks, stop, last), world') ↔
      stop.Fits limit blocks ∧
        Successive step c world (stop.resultsAfter blocks) last world' := by
  induction limit generalizing c world blocks with
  | zero =>
      constructor
      · intro run_eq
        cases run_eq
        exact ⟨rfl, .nil⟩
      · rintro ⟨fits, steps⟩
        cases stop with
        | limit =>
            obtain rfl := List.length_eq_zero_iff.mp fits
            obtain ⟨rfl, rfl⟩ := Successive.nil_iff.mp steps
            rfl
        | ended => cases fits
        | failed error => cases fits
  | succ limit ih =>
      rw [collect_run_succ]
      constructor
      · intro run_eq
        rcases taken : (step c).run world with ⟨_ | ⟨_ | _ | block, next⟩, world''⟩ <;>
          rw [taken] at run_eq
        · cases run_eq
        · cases run_eq
          exact ⟨Nat.succ_pos limit, .cons taken .nil⟩
        · cases run_eq
          exact ⟨Nat.succ_pos limit, .cons taken .nil⟩
        · obtain ⟨found, left_eq⟩ := Prod.mk.inj run_eq
          obtain ⟨⟨rest, _, _⟩, rest_eq, made⟩ := Option.map_eq_some_iff.mp found
          cases made
          obtain ⟨fits, steps⟩ := ih.mp (Prod.ext rest_eq left_eq)
          exact ⟨Stop.fits_succ_cons_iff.mpr fits, .cons taken steps⟩
      · rintro ⟨fits, steps⟩
        rcases fits.cases with ⟨rfl, rfl⟩ | ⟨error, rfl, rfl⟩ | ⟨block, rest, rfl, few⟩
        · cases steps with
          | cons taken none =>
              obtain ⟨rfl, rfl⟩ := Successive.nil_iff.mp none
              rw [taken]
        · cases steps with
          | cons taken none =>
              obtain ⟨rfl, rfl⟩ := Successive.nil_iff.mp none
              rw [taken]
        · cases steps with
          | cons taken steps =>
              have rest_eq := ih.mpr ⟨few, steps⟩
              rw [taken]
              simp only [rest_eq]
              rfl

/-- Steps that agree as long as an invariant holds collect the same. -/
theorem collect_run_congr (Inv : Cursor → Prop)
    (agree : ∀ {c}, Inv c → ∀ world, (other c).run world = (step c).run world)
    (keeps : ∀ {c world pulled next world'}, Inv c →
      (step c).run world = (some (pulled, next), world') → Inv next)
    (inv : Inv c) : (collect other limit c).run world = (collect step limit c).run world := by
  induction limit generalizing c world with
  | zero => rfl
  | succ limit ih =>
      rw [collect_run_succ, collect_run_succ, agree inv]
      rcases taken : (step c).run world with ⟨_ | ⟨_ | _ | block, next⟩, world''⟩
      · rfl
      · rfl
      · rfl
      · simp only [ih (keeps inv taken)]

end

/-! ## Pulls with waits -/

section

variable {endpoint : Endpoint (StateM σ)} {wait : StateM σ Unit} {c next last : Cursor}
  {world world' : σ} {pulled : Pulled} {found results : List Pulled} {patience : Nat}

/-- A pull, and a wait if it has found the end of the data. -/
def pullThenWait (endpoint : Endpoint (StateM σ)) (wait : StateM σ Unit) (c : Cursor) :
    StateM σ (Option (Pulled × Cursor)) := do
  let outcome ← c.pull endpoint
  match outcome with
  | some (.ok none, _) => wait
  | _ => pure ()
  return outcome

theorem pullThenWait_run_of_found (on : Pulled.isEnd pulled = false)
    (pulls : (c.pull endpoint).run world = (some (pulled, next), world')) :
    (c.pullThenWait endpoint wait).run world = (some (pulled, next), world') := by
  rw [pullThenWait, StateT.run_bind, pulls]
  match pulled with
  | .error error => rfl
  | .ok (some block) => rfl
  | .ok none => cases on

theorem pullThenWait_run_of_end
    (pulls : (c.pull endpoint).run world = (some (.ok none, next), world')) :
    (c.pullThenWait endpoint wait).run world = (some (.ok none, next), (wait.run world').2) := by
  rw [pullThenWait, StateT.run_bind, pulls]
  rfl

theorem pullThenWait_run_of_outstanding
    (outstanding : (c.pull endpoint).run world = (none, world')) :
    (c.pullThenWait endpoint wait).run world = (none, world') := by
  rw [pullThenWait, StateT.run_bind, outstanding]
  rfl

/-- A pull with its wait is a pull. -/
theorem exists_pull_of_pullThenWait
    (pulls : (c.pullThenWait endpoint wait).run world = (some (pulled, next), world')) :
    ∃ before, (c.pull endpoint).run world = (some (pulled, next), before) ∧
      world' = if Pulled.isEnd pulled then (wait.run before).2 else before := by
  rcases taken : (c.pull endpoint).run world with ⟨_ | ⟨result, after⟩, before⟩
  · rw [pullThenWait_run_of_outstanding taken] at pulls
    cases pulls
  · cases ends : Pulled.isEnd result with
    | false =>
        rw [pullThenWait_run_of_found ends taken] at pulls
        cases pulls
        exact ⟨_, rfl, by rw [ends]; rfl⟩
    | true =>
        match result with
        | .ok none =>
            rw [pullThenWait_run_of_end taken] at pulls
            cases pulls
            exact ⟨_, rfl, rfl⟩

theorem pull_config (pulls : (c.pull endpoint).run world = (some (pulled, next), world')) :
    next.config = c.config := by
  obtain ⟨taking, taken, _⟩ := pull_cases pulls
  exact (takeLine_setup taken).2.2

theorem Successive.config_eq
    (pulls : Successive (pullThenWait endpoint wait) c world results last world') :
    last.config = c.config := by
  induction pulls with
  | nil => rfl
  | cons now _ ih =>
      obtain ⟨_, pulls, _⟩ := exists_pull_of_pullThenWait now
      exact ih.trans (pull_config pulls)

/-! ## Patient pulls -/

theorem pullPatiently_run_of_found (on : Pulled.isEnd pulled = false)
    (pulls : (c.pull endpoint).run world = (some (pulled, next), world')) (patience : Nat) :
    (pullPatiently endpoint wait (patience + 1) c).run world = (some (pulled, next), world') := by
  rw [pullPatiently, StateT.run_bind, pulls]
  match pulled with
  | .error error => rfl
  | .ok (some block) => rfl
  | .ok none => cases on

/-- In stream mode, a pull that finds the end of the data is made again after a wait. -/
theorem pullPatiently_run_of_end (endless : next.config.stream = true)
    (pulls : (c.pull endpoint).run world = (some (.ok none, next), world')) (patience : Nat) :
    (pullPatiently endpoint wait (patience + 1) c).run world =
      (pullPatiently endpoint wait patience next).run (wait.run world').2 := by
  rw [pullPatiently, StateT.run_bind, pulls]
  change StateT.run (if next.config.stream = true then _ else _) world' = _
  rw [if_pos endless, StateT.run_bind]
  rfl

theorem pullPatiently_run_of_outstanding
    (outstanding : (c.pull endpoint).run world = (none, world')) (patience : Nat) :
    (pullPatiently endpoint wait (patience + 1) c).run world = (none, world') := by
  rw [pullPatiently, StateT.run_bind, outstanding]
  rfl

/-- Outside stream mode, there is nothing to be patient about. -/
theorem pullPatiently_run_of_finite (finite : c.config.stream = false) (patience : Nat)
    (world : σ) :
    (pullPatiently endpoint wait (patience + 1) c).run world = (c.pull endpoint).run world := by
  rcases pulls : (c.pull endpoint).run world with ⟨_ | ⟨_ | _ | block, next⟩, world'⟩
  · exact pullPatiently_run_of_outstanding pulls patience
  · exact pullPatiently_run_of_found rfl pulls patience
  · rw [pullPatiently, StateT.run_bind, pulls]
    change StateT.run (if next.config.stream = true then _ else _) world' = _
    rw [if_neg (by rw [pull_config pulls, finite]; exact Bool.false_ne_true)]
    rfl
  · exact pullPatiently_run_of_found rfl pulls patience

/-- A patient pull passes over the ends of the data to the first other result. -/
theorem pullPatiently_run_eq_some_iff (endless : c.config.stream = true) :
    (pullPatiently endpoint wait patience c).run world = (some (pulled, last), world') ↔
      Pulled.isEnd pulled = false ∧ ∃ count < patience,
        Successive (pullThenWait endpoint wait) c world
          (List.replicate count (.ok none) ++ [pulled]) last world' := by
  induction patience generalizing c world with
  | zero =>
      constructor
      · intro nothing
        cases nothing
      · rintro ⟨_, count, few, _⟩
        cases few
  | succ patience ih =>
      rcases taken : (c.pull endpoint).run world with ⟨_ | ⟨result, next⟩, world''⟩
      · rw [pullPatiently_run_of_outstanding taken]
        constructor
        · intro nothing
          cases nothing
        · rintro ⟨_, count, _, steps⟩
          have none := steps.eq_nil (pullThenWait_run_of_outstanding taken)
          simp at none
      cases ends : Pulled.isEnd result with
      | false =>
          have now : (c.pullThenWait endpoint wait).run world = (some (result, next), world'') :=
            pullThenWait_run_of_found ends taken
          rw [pullPatiently_run_of_found ends taken]
          constructor
          · intro run_eq
            cases run_eq
            exact ⟨ends, 0, Nat.succ_pos patience, .cons now .nil⟩
          · rintro ⟨_, count, _, steps⟩
            cases count with
            | zero =>
                obtain ⟨rfl, steps⟩ := (Successive.cons_iff now).mp steps
                obtain ⟨rfl, rfl⟩ := Successive.nil_iff.mp steps
                rfl
            | succ count =>
                obtain ⟨rfl, _⟩ := (Successive.cons_iff now).mp steps
                cases ends
      | true =>
          match result with
          | .ok none =>
              have now : (c.pullThenWait endpoint wait).run world =
                  (some (.ok none, next), (wait.run world'').2) :=
                pullThenWait_run_of_end taken
              have still : next.config.stream = true := by rw [pull_config taken, endless]
              rw [pullPatiently_run_of_end still taken, ih still]
              constructor
              · rintro ⟨on, count, few, steps⟩
                exact ⟨on, count + 1, Nat.succ_lt_succ few, .cons now steps⟩
              · rintro ⟨on, count, few, steps⟩
                cases count with
                | zero =>
                    obtain ⟨rfl, _⟩ := (Successive.cons_iff now).mp steps
                    cases on
                | succ count =>
                    exact ⟨on, count, Nat.lt_of_succ_lt_succ few,
                      ((Successive.cons_iff now).mp steps).2⟩

/-- Greater patience gives the same. -/
theorem pullPatiently_run_mono {pulled : Pulled × Cursor} (more : Nat)
    (pulls : (pullPatiently endpoint wait patience c).run world = (some pulled, world')) :
    (pullPatiently endpoint wait (patience + more) c).run world = (some pulled, world') := by
  cases patience with
  | zero => cases pulls
  | succ patience =>
      rw [Nat.add_right_comm]
      cases stream : c.config.stream with
      | false =>
          rw [pullPatiently_run_of_finite stream] at pulls ⊢
          exact pulls
      | true =>
          obtain ⟨pulled, last⟩ := pulled
          obtain ⟨on, count, few, steps⟩ := (pullPatiently_run_eq_some_iff stream).mp pulls
          rw [pullPatiently_run_eq_some_iff stream]
          exact ⟨on, count, by omega, steps⟩

/-- What patient pulls find in stream mode is what pulls find, without the ends of the data. -/
theorem Successive.of_patient (endless : c.config.stream = true)
    (steps : Successive (pullPatiently endpoint wait patience) c world found last world') :
    ∃ results, Successive (pullThenWait endpoint wait) c world results last world' ∧
      Pulled.withoutEnds results = found ∧ results.getLast? ≠ some (.ok none) := by
  induction steps with
  | nil => exact ⟨[], .nil, rfl, by simp⟩
  | @cons _ _ _ _ _ _ pulled _ now _ ih =>
      obtain ⟨on, count, _, passed⟩ := (pullPatiently_run_eq_some_iff endless).mp now
      obtain ⟨results, rest, found_eq, last_ne⟩ := ih (passed.config_eq ▸ endless)
      refine ⟨_, passed.append rest, ?_, ?_⟩
      · rw [Pulled.withoutEnds_passed on, found_eq]
      · rw [List.getLast?_append]
        cases results_last : results.getLast? with
        | some result =>
            rw [Option.some_or, ← results_last]
            exact last_ne
        | none =>
            rw [Option.none_or, List.getLast?_concat]
            rintro same
            cases same
            cases on

/-- What pulls find in stream mode is found by patient pulls, except the ends of the data. -/
theorem Successive.patient (endless : c.config.stream = true)
    (steps : Successive (pullThenWait endpoint wait) c world results last world')
    (last_ne : results.getLast? ≠ some (.ok none)) (enough : results.length ≤ patience) :
    Successive (pullPatiently endpoint wait patience) c world (Pulled.withoutEnds results) last
      world' := by
  induction steps generalizing patience with
  | nil => exact .nil
  | @cons _ next _ _ _ _ pulled results now rest ih =>
      obtain ⟨before, pulls, world_eq⟩ := exists_pull_of_pullThenWait now
      obtain ⟨patience, rfl⟩ := Nat.exists_eq_add_of_lt enough
      have still : next.config.stream = true := by rw [pull_config pulls, endless]
      have rest_ne : results.getLast? ≠ some (.ok none) := by
        intro results_last
        rw [List.getLast?_cons, results_last] at last_ne
        exact last_ne rfl
      cases ends : Pulled.isEnd pulled with
      | false =>
          rw [ends] at world_eq
          obtain rfl := world_eq
          rw [Pulled.withoutEnds_cons_of_found ends]
          exact .cons (pullPatiently_run_of_found ends pulls _)
            (ih still rest_ne (Nat.le_add_right_of_le (Nat.le_add_right _ patience)))
      | true =>
          rw [if_pos ends] at world_eq
          obtain rfl := world_eq
          match pulled with
          | .ok none =>
              have some_result : results ≠ [] := by
                rintro rfl
                exact last_ne rfl
              have few : results.length ≤ results.length + patience := Nat.le_add_right ..
              -- The patient pull goes on to the first result that is no end.
              obtain ⟨first, others, found_eq⟩ :=
                List.exists_cons_of_ne_nil (Pulled.withoutEnds_ne_nil some_result rest_ne)
              have later := ih still rest_ne few
              rw [found_eq] at later
              cases later with
              | cons now rest =>
                  rw [← pullPatiently_run_of_end still pulls] at now
                  rw [show Pulled.withoutEnds (.ok none :: results) = first :: others from
                    found_eq]
                  exact .cons now (rest.mono (pullPatiently_run_mono 1))

end

/-! ## Sequences -/

/-- Sequences of blocks refine pulls.  A sequence yields the blocks of successive pulls up to the first
result that is none; if that is an error, the sequence fails with it.  Outside stream mode a followed
sequence is the same.  In stream mode it yields the blocks of successive pulls, with a wait after each
end of the data, in their order and without these ends, up to the first error; it never ends otherwise.
A sequence that has been stopped by a result is over, whatever more is wanted of it, and more patience
makes no difference to what has been yielded. -/
theorem sequences_refine_pulls (endpoint : Endpoint (StateM σ)) (wait : StateM σ Unit)
    (c : Cursor) (world : σ) (limit : Nat) (blocks : List Bytes) (stop : Stop) (last : Cursor)
    (world' : σ) :
    ((c.blocks endpoint limit).run world = (some (blocks, stop, last), world') ↔
        stop.Fits limit blocks ∧
          Successive (·.pull endpoint) c world (stop.resultsAfter blocks) last world') ∧
      (c.config.stream = false → ∀ patience,
        (c.followedBlocks endpoint (patience + 1) limit wait).run world =
          (c.blocks endpoint limit).run world) ∧
      (c.config.stream = true →
        ((∃ patience, (c.followedBlocks endpoint patience limit wait).run world =
            (some (blocks, stop, last), world')) ↔
          stop.Fits limit blocks ∧ stop ≠ .ended ∧
            ∃ results, Successive (·.pullThenWait endpoint wait) c world results last world' ∧
              Pulled.withoutEnds results = stop.resultsAfter blocks ∧
              results.getLast? ≠ some (.ok none))) ∧
      (stop ≠ .limit →
        (c.blocks endpoint limit).run world = (some (blocks, stop, last), world') →
          ∀ more, (c.blocks endpoint (limit + more)).run world =
            (some (blocks, stop, last), world')) ∧
      ∀ patience, (c.followedBlocks endpoint patience limit wait).run world =
          (some (blocks, stop, last), world') →
        ∀ further more, stop ≠ .limit ∨ more = 0 →
          (c.followedBlocks endpoint (patience + further) (limit + more) wait).run world =
            (some (blocks, stop, last), world') := by
  refine ⟨collect_run_eq_some_iff, ?_, ?_, ?_, ?_⟩
  · intro finite patience
    exact collect_run_congr (fun c => c.config.stream = false)
      (fun finite world => pullPatiently_run_of_finite finite patience world)
      (fun finite pulls => (congrArg ReadConfig.stream (pull_config pulls)).trans finite) finite
  · intro endless
    constructor
    · rintro ⟨patience, run_eq⟩
      obtain ⟨fits, steps⟩ := collect_run_eq_some_iff.mp run_eq
      obtain ⟨results, pulls, found_eq, last_ne⟩ := steps.of_patient endless
      refine ⟨fits, ?_, results, pulls, found_eq, last_ne⟩
      rintro rfl
      have stopped : .ok none ∈ Pulled.withoutEnds results := by
        rw [found_eq]
        exact List.mem_append_right _ (List.mem_singleton_self _)
      cases (List.mem_filter.mp stopped).2
    · rintro ⟨fits, _, results, pulls, found_eq, last_ne⟩
      have steps := pulls.patient endless last_ne (Nat.le_refl _)
      rw [found_eq] at steps
      exact ⟨results.length, collect_run_eq_some_iff.mpr ⟨fits, steps⟩⟩
  · intro settled run_eq more
    obtain ⟨fits, steps⟩ := collect_run_eq_some_iff.mp run_eq
    exact collect_run_eq_some_iff.mpr ⟨fits.add settled more, steps⟩
  · intro patience run_eq further more settled
    obtain ⟨fits, steps⟩ := collect_run_eq_some_iff.mp run_eq
    have enough : stop.Fits (limit + more) blocks := by
      rcases settled with settled | rfl
      · exact fits.add settled more
      · exact fits
    exact collect_run_eq_some_iff.mpr ⟨enough, steps.mono (pullPatiently_run_mono further)⟩

/-- A line is appended with every wait, and the fifth read is refused: two blocks are yielded, and
the sequence fails. -/
theorem sequences_refine_pulls_of_growing_file :
    let service : Simulation.Service Simulation.ReadReply :=
      { source := .memory (.ofBytes [0x61, 0x0A]), callLimit := some 4 }
    let wait : StateM (Simulation.Service Simulation.ReadReply) Unit :=
      modify (·.changeFile (·.append [0x62, 0x0A]))
    let coordinates : TaskCoordinates := ⟨"agent", "framework", "executor", "container", none⟩
    let c := fresh coordinates "stdout" OutputFormat.text.formatter { stream := true } 0
    ∃ last world',
      (c.followedBlocks Simulation.serviceEndpoint 2 9 wait).run service =
          (some ([[0x61, 0x0A], [0x62, 0x0A]], .failed (.fetch (.status .unavailable)), last),
            world') ∧
        (c.followedBlocks Simulation.serviceEndpoint 5 20 wait).run service =
          (some ([[0x61, 0x0A], [0x62, 0x0A]], .failed (.fetch (.status .unavailable)), last),
            world') ∧
        ∃ results,
          Successive (·.pullThenWait Simulation.serviceEndpoint wait) c service results last
              world' ∧
            Pulled.withoutEnds results =
              [.ok (some [0x61, 0x0A]), .ok (some [0x62, 0x0A]),
                .error (.fetch (.status .unavailable))] := by
  intro service wait coordinates c
  have yields : ((c.followedBlocks Simulation.serviceEndpoint 2 9 wait).run service).1.map
      (fun (blocks, stop, _) => (blocks, stop)) =
        some ([[0x61, 0x0A], [0x62, 0x0A]], .failed (.fetch (.status .unavailable))) := by
    decide +kernel
  obtain ⟨outcome, left, run_eq⟩ : ∃ outcome left,
      (c.followedBlocks Simulation.serviceEndpoint 2 9 wait).run service = (outcome, left) :=
    ⟨_, _, rfl⟩
  rw [run_eq] at yields
  obtain ⟨⟨blocks, stop, last⟩, rfl, shown⟩ := Option.map_eq_some_iff.mp yields
  obtain ⟨rfl, rfl⟩ := Prod.mk.inj shown
  obtain ⟨_, _, refines, _, settled⟩ := sequences_refine_pulls Simulation.serviceEndpoint wait c
    service 9 [[0x61, 0x0A], [0x62, 0x0A]] (.failed (.fetch (.status .unavailable))) last left
  obtain ⟨_, _, results, pulls, found_eq, _⟩ := (refines rfl).mp ⟨2, run_eq⟩
  exact ⟨last, left, run_eq, settled 2 run_eq 3 11 (.inl nofun), results, pulls, found_eq⟩

end Cursor

end RemoteTail
