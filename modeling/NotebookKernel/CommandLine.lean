import NotebookKernel.Kernel
import NotebookKernel.Settings

/-!
The command line: its options, and what a kernel is started with when options, environment and
settings are put together.

An option wins over the environment, and the environment over the settings.
-/

namespace NotebookKernel.CommandLine

/-- The variables of an environment, in its order. -/
abbrev Environment := List (String × String)

/-- What the user gave. -/
structure Options where
  /-- The settings file. -/
  config : Option String := none
  /-- The debugger. -/
  adapter : Option String := none
  /-- The program launched under the debugger. -/
  program : Option String := none
  sessionId : Option String := none
  sessionKey : Option String := none
  username : Option String := none
  logFile : Option String := none
  deriving Repr, DecidableEq, Inhabited

/-- Why arguments make no options. -/
inductive UsageError where
  | unexpected (argument : String)
  | missingValue (option : String)
  | repeated (option : String)
  deriving Repr, DecidableEq, Inhabited

/-- The text of a usage error. -/
def UsageError.message : UsageError → String
  | unexpected argument => "unexpected argument `" ++ argument ++ "`"
  | missingValue option => "a value is required for `--" ++ option ++ "`"
  | repeated option => "`--" ++ option ++ "` cannot be used multiple times"

/-- Why no kernel can be started. -/
inductive Refusal where
  | unsupportedLanguage (language : String)
  | noProgram
  deriving Repr, DecidableEq, Inhabited

/-- The text of a refusal. -/
def Refusal.message : Refusal → String
  | unsupportedLanguage language => "unsupported target language `" ++ language ++ "`"
  | noProgram => "REPL program is not set, use --program or REPL_PROGRAM_PATH"

namespace Options

/-- The value of an option by its name, `none` if there is no such option. -/
def get? (o : Options) : (name : String) → Option (Option String)
  | "config" => some o.config
  | "adapter" => some o.adapter
  | "program" => some o.program
  | "session-id" => some o.sessionId
  | "session-key" => some o.sessionKey
  | "username" => some o.username
  | "log-file" => some o.logFile
  | _ => none

/-- Give an option a value. -/
def set (o : Options) (value : String) : (name : String) → Options
  | "config" => { o with config := some value }
  | "adapter" => { o with adapter := some value }
  | "program" => { o with program := some value }
  | "session-id" => { o with sessionId := some value }
  | "session-key" => { o with sessionKey := some value }
  | "username" => { o with username := some value }
  | "log-file" => { o with logFile := some value }
  | _ => o

/-- Give an option its first value. -/
def setOnce (o : Options) (name value : String) : Except UsageError Options :=
  match o.get? name with
  | none => .error (.unexpected ("--" ++ name))
  | some (some _) => .error (.repeated name)
  | some none => .ok (o.set value name)

/-- Read arguments over the options read so far. A value stands in the argument after its option, or
in the same one after an equals sign. -/
def read (o : Options) : (arguments : List String) → Except UsageError Options
  | [] => .ok o
  | argument :: rest =>
    match Text.dropLead? ['-', '-'] argument.toList with
    | none => .error (.unexpected argument)
    | some text =>
      let name := text.takeWhile (· ≠ '=')
      match text.drop name.length, rest with
      | _ :: value, rest => do
        (← o.setOnce (String.ofList name) (String.ofList value)).read rest
      | [], value :: rest => do (← o.setOnce (String.ofList name) value).read rest
      | [], [] =>
        match o.get? (String.ofList name) with
        | some _ => .error (.missingValue (String.ofList name))
        | none => .error (.unexpected argument)

/-- The options that arguments give. -/
def ofArguments (arguments : List String) : Except UsageError Options :=
  read {} arguments

end Options

/-- The options in force: what the user left out is looked up in the environment. -/
def Options.orElse (o : Options) (environment : Environment) : Options :=
  { o with
    program := o.program <|> environment.lookup "REPL_PROGRAM_PATH"
    sessionKey := o.sessionKey <|> environment.lookup "DBGK_SESSION_KEY"
    username := o.username <|> environment.lookup "USER" }

/-- The environment of the target: the kernel's own without the blocked variables, and the
directory of the kernel's executable. -/
def targetEnvironment (environment : Environment) (blocked : List String)
    (installDirectory : String) : Environment :=
  environment.filter (fun v => !blocked.contains v.1)
    ++ [("DBGK_INSTALL_DIR", installDirectory)]

/-- The target language of a given name. -/
def languageOf (language : String) : Except Refusal TargetLanguage :=
  if language = TargetLanguage.swift.name then .ok .swift
  else .error (.unsupportedLanguage language)

/-- The surroundings that a kernel is started in. -/
structure Place where
  environment : Environment
  installDirectory : String
  workingDirectory : Option String
  /-- A session id for users who name none. -/
  freshSessionId : String
  deriving Repr, DecidableEq, Inhabited

/-- What a kernel is started with. -/
def startPlan (o : Options) (s : Settings) (place : Place) :
    Except Refusal StartPlan := do
  let o := o.orElse place.environment
  let language ← languageOf s.target.language
  match o.program <|> s.target.program with
  | none => throw .noProgram
  | some program =>
    let entry := s.target.entryBreakpoint
    pure {
      language
      launch := {
        program
        args := []
        env := targetEnvironment place.environment s.target.envBlocklist place.installDirectory
        workingDirectory := place.workingDirectory
        entryBreakpoint := if entry = "" then none else some entry }
      identity := {
        id := o.sessionId.getD place.freshSessionId
        key := o.sessionKey.getD ""
        username := o.username.getD "kernel" }
      includePath := ⟨some place.installDirectory, place.workingDirectory, s.includeRoots⟩
      chunkSize := s.relay.effective.chunkSize
      timeout := s.timeout }

/-- The variables in the bytes of an environment block, in which each ends with a zero byte.
Variables that are not UTF-8 are left out. -/
def environmentOfBlock (block : Bytes) : Environment :=
  (block.splitBy fun a _ => a ≠ 0).filterMap fun entry => do
    let text ← Utf8.decodeString? (entry.filter (· ≠ 0))
    let name := text.toList.takeWhile (· ≠ '=')
    match text.toList.drop name.length with
    | _ :: value => some (String.ofList name, String.ofList value)
    | [] => none

/-- A session id made of sixteen random bytes: a version 4 UUID. -/
def sessionIdOf (random : Bytes) : String :=
  let marked := random.zipIdx.map fun (b, i) =>
    if i = 6 then b % 16 + 0x40 else if i = 8 then b % 64 + 0x80 else b
  let digits := marked.flatMap fun b => [Json.hexDigit (b.toNat / 16), Json.hexDigit b.toNat]
  String.ofList (digits.zipIdx.flatMap fun (c, i) =>
    if i ∈ [8, 12, 16, 20] then ['-', c] else [c])

end NotebookKernel.CommandLine
