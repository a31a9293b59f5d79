import RemoteTail.Session

/-!
# The endpoint of a session

Three places may name the endpoint: the arguments, the environment and the
settings file.  The environment is read twice, once where a command line is
finished and once where the settings are loaded; only the second reading lets
an empty text name none.

A session asks the endpoint that the arguments name, or else the one that the
environment names, the empty text included, or else the one of the settings
file, or else the default (`endpointText_load`).  With `chosenEndpoint`, in
which the empty text counts as none throughout, this differs in one case only:
the arguments name no endpoint, the environment names the empty one and the
settings file does not (`endpointText_eq_chosenEndpoint_iff`).
-/

namespace RemoteTail

/-! ## The arguments -/

namespace CommandLine

/-- The endpoint that the arguments name, if they name one. -/
def endpointArgument? (arguments : List String) : Option String :=
  (arguments.foldlM Draft.take {} >>= Draft.settle).toOption.bind (·.options.endpoint)

/-- A command line has the endpoint that its arguments name, or else that of the environment. -/
theorem endpoint_of_parse {arguments : List String} {environment : Option String}
    {line : CommandLine} (parsed : parse arguments environment = .ok line) :
    line.options.endpoint = (endpointArgument? arguments).orElse fun _ => environment := by
  unfold parse at parsed
  unfold endpointArgument?
  cases taken : arguments.foldlM Draft.take {} with
  | error refusal =>
      rw [taken] at parsed
      cases parsed
  | ok draft =>
      rw [taken] at parsed
      change draft.finish environment = .ok line at parsed
      change line.options.endpoint =
        (draft.settle.toOption.bind (·.options.endpoint)).orElse fun _ => environment
      unfold Draft.finish at parsed
      cases settled : draft.settle with
      | error refusal =>
          rw [settled] at parsed
          cases parsed
      | ok draft =>
          simp only [settled, bind, Except.bind] at parsed
          split at parsed
          · cases parsed
            rfl
          · cases parsed

end CommandLine

/-! ## The settings file -/

namespace Json.RecordReader

variable {σ α β : Type}

/-- What is made of the fields of a record does not change how they are read. -/
theorem read_finish (record : RecordReader σ α) (make : σ → β) (text : List Token) :
    { record with finish := fun state => some (make state) }.read text =
      ({ record with finish := some }.read text).map fun (state, rest) => (make state, rest) := by
  have members_made :
      { record with finish := fun state => some (make state) }.readMember = record.readMember := rfl
  have members_kept : { record with finish := some }.readMember = record.readMember := rfl
  cases text with
  | nil => rfl
  | cons token rest =>
      cases token with
      | opening shape =>
          cases shape with
          | object =>
              simp only [read, bind, Except.bind, members_made, members_kept]
              cases readMembers record.readMember (rest.length + 1) true record.start rest <;> rfl
          | list =>
              simp only [read, bind, Except.bind]
              cases readElements record.fields true record.start rest with
              | error fault => rfl
              | ok members =>
                  simp only [complete]
                  cases closeList members.2 <;> rfl
      | _ => rfl

theorem readDocument_finish (record : RecordReader σ α) (make : σ → β) (text : Bytes) :
    { record with finish := fun state => some (make state) }.readDocument text =
      ({ record with finish := some }.readDocument text).map make := by
  rw [readDocument, readDocument, read_finish]
  cases { record with finish := some }.read (tokens text) with
  | error fault => rfl
  | ok answer =>
      change (if answer.2.isEmpty = true then _ else _) =
        Except.map make (if answer.2.isEmpty = true then _ else _)
      split <;> rfl

end Json.RecordReader

namespace Settings

/-- The endpoint that a settings file names, if the file is in order and names one. -/
def fileEndpoint? (file : Bytes) : Option String :=
  if (Utf8.decode? file).isNone then none
  else ({ record with finish := some }.readDocument file).toOption.bind (·.endpoint)

theorem endpoint_ofFile (file : Bytes) :
    (ofFile file).endpoint = (fileEndpoint? file).getD defaultEndpoint := by
  unfold ofFile decode fileEndpoint?
  by_cases isText : (Utf8.decode? file).isNone = true
  · rw [if_pos isText, if_pos isText]
    rfl
  · have read_eq : record.readDocument file =
        ({ record with finish := some }.readDocument file).map Draft.fill :=
      Json.RecordReader.readDocument_finish record Draft.fill file
    rw [if_neg isText, if_neg isText, read_eq]
    cases { record with finish := some }.readDocument file with
    | error fault => rfl
    | ok draft => rfl

/-- The settings have the endpoint that the environment names, or else that of the file. -/
theorem endpoint_load (file : Option Bytes) (environment : Option String) :
    (load file environment).endpoint =
      (environment.filter (· ≠ "")).getD ((file.bind fileEndpoint?).getD defaultEndpoint) := by
  have without : ((file.map ofFile).getD defaults).endpoint =
      (file.bind fileEndpoint?).getD defaultEndpoint := by
    cases file with
    | none => rfl
    | some file => exact endpoint_ofFile file
  rw [← without, load]
  cases environment with
  | none => rfl
  | some endpoint =>
      by_cases empty : endpoint = ""
      · simp [override, Option.filter_some, empty]
      · simp [override, Option.filter_some, empty]

end Settings

/-! ## The endpoint that is asked -/

namespace Plan

open CommandLine Settings

variable {arguments : List String} {environment : Option String} {line : CommandLine}

/-- The endpoint to ask if an empty text in the environment names none. -/
def chosenEndpoint (arguments : List String) (environment : Option String) (file : Option Bytes) :
    String :=
  (endpointArgument? arguments).getD <|
    (environment.filter (· ≠ "")).getD <| (file.bind fileEndpoint?).getD defaultEndpoint

/-- A session asks the endpoint of the arguments, or else of the environment, or else of the
file. -/
theorem endpointText_load (parsed : parse arguments environment = .ok line)
    (file : Option Bytes) :
    endpointText line (Settings.load file environment) =
      (endpointArgument? arguments).getD
        (environment.getD ((file.bind fileEndpoint?).getD defaultEndpoint)) := by
  rw [endpointText, endpoint_of_parse parsed, endpoint_load]
  cases endpointArgument? arguments with
  | some endpoint => rfl
  | none => cases environment <;> rfl

/-- A session asks the chosen endpoint unless the arguments name none, the environment names the
empty one and the settings do not. -/
theorem endpointText_eq_chosenEndpoint_iff (parsed : parse arguments environment = .ok line)
    (file : Option Bytes) :
    endpointText line (Settings.load file environment) =
        chosenEndpoint arguments environment file ↔
      (endpointArgument? arguments).isSome ∨ environment ≠ some "" ∨
        file.bind fileEndpoint? = some "" := by
  rw [endpointText_load parsed, chosenEndpoint]
  cases endpointArgument? arguments with
  | some endpoint => simp
  | none =>
      cases environment with
      | none => simp
      | some endpoint =>
          by_cases empty : endpoint = ""
          · have default_ne : "" ≠ defaultEndpoint := by decide
            subst empty
            cases file.bind fileEndpoint? with
            | none => simpa [Option.filter_some] using default_ne
            | some endpoint => simp [Option.filter_some, eq_comm]
          · simp [Option.filter_some, empty]

/-- Without an endpoint in the arguments, the one in the environment is asked. -/
theorem endpointText_eq_chosenEndpoint_iff_of_environment :
    ∃ line, parse ["a", "f", "e", "c"] (some "http://h/") = .ok line ∧
      endpointText line (Settings.load none (some "http://h/")) = "http://h/" := by
  obtain ⟨line, parsed⟩ : ∃ line, parse ["a", "f", "e", "c"] (some "http://h/") = .ok line :=
    ⟨_, rfl⟩
  have environment_named : (some "http://h/" : Option String) ≠ some "" := by decide
  refine ⟨line, parsed, ?_⟩
  exact (endpointText_eq_chosenEndpoint_iff parsed none).mpr (.inr (.inl environment_named))

/-- An empty endpoint in the environment is asked, and no URL is empty, where the default is
chosen. -/
theorem make_of_empty_environment :
    ∃ line, parse ["a", "f", "e", "c"] (some "") = .ok line ∧
      make line (Settings.load none (some "")) = .error (.invalidEndpoint "") ∧
      chosenEndpoint ["a", "f", "e", "c"] (some "") none = defaultEndpoint := by
  refine ⟨_, rfl, ?_, ?_⟩
  · rfl
  · rfl

end Plan

end RemoteTail
