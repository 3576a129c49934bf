import Signpost.CommandLine.Word

namespace Signpost.CommandLine

-- The operands of a command are absent where a double dash stands in their place.
abbrev Operand := Option String

inductive Command
  | compile (constraints : List String) (template : Operand)
  | «match» (constraints : List String) (template path : Operand)
  | dispatch (route path : Operand)
deriving DecidableEq, Repr

structure Invocation where
  verbose : Bool
  -- Without a command there is only help to give.
  command : Option Command
deriving DecidableEq, Repr

-- Why reading stops, with the usage of the part of the line that was being read.
inductive Stop
  | help (usage : String)
  | mistake (usage : String)
deriving DecidableEq, Repr

-- What a command takes: flags, and a number of operands.
structure Shape where
  usage : String
  flags : List Flag
  operands : Nat

-- What has been read of a command line, or of the part that belongs to a command.
structure Reading where
  verbose : Bool := false
  constraints : List String := []
  operands : List Operand := []
  -- Whether a word was left over. A line with such a word is a mistake, unless help comes first.
  leftover : Bool := false

-- The flags that are set by letters behind one dash, and whether letters remain that are none.
def cluster (flags : List Flag) (first : Flag) : List Char → Option (List Flag × Bool)
  | [] => some ([first], false)
  | letter :: rest =>
      if letter = '-' then none
      else
        match flags.find? fun flag => flag.short = some letter with
        | none => some ([first], true)
        | some next =>
            match rest with
            | '=' :: _ => none
            | rest => (cluster flags next rest).map fun (more, remains) => (first :: more, remains)

namespace Reading

def setFlag (shape : Shape) (reading : Reading) : Flag → Except Stop Reading
  | .help => .error (.help shape.usage)
  | .verbose => .ok { reading with verbose := true }
  | .constraint => .ok reading

-- A flag that takes no value, with what is attached to it.
def short (shape : Shape) (reading : Reading) (flag : Flag) : Attached → Except Stop Reading
  | .nothing => setFlag shape reading flag
  | .equals _ => .error (.mistake shape.usage)
  | .joined letters =>
      match cluster shape.flags flag letters with
      | none => .error (.mistake shape.usage)
      | some (flags, remains) => do
          let reading ← flags.foldlM (setFlag shape) reading
          pure { reading with leftover := reading.leftover || remains }

def addConstraint (reading : Reading) (item : String) : Reading :=
  { reading with constraints := reading.constraints ++ [item] }

def addOperand (reading : Reading) (operand : Operand) : Reading :=
  { reading with operands := reading.operands ++ [operand] }

-- Once a command has its operands, further ones are left over.
def operand (shape : Shape) (reading : Reading) (text : Operand) : Reading :=
  if reading.operands.length < shape.operands then reading.addOperand text
  else { reading with leftover := true }

-- Operands behind the double dash. A second double dash leaves the place of an operand empty.
def afterDashes (shape : Shape) (reading : Reading) (texts : List String) : Reading :=
  texts.foldl
    (fun reading text => reading.operand shape (if text = "--" then none else some text)) reading

-- A double dash with no operand before it belongs to the one behind it, which it protects.
def leadingDashes (shape : Shape) (reading : Reading) : List String → Reading
  | [] => { reading with leftover := true }
  | text :: texts => afterDashes shape (reading.operand shape (some text)) texts

end Reading

def readWords (shape : Shape) (reading : Reading) : List Word → Except Stop Reading
  | [] => .ok reading
  | .operand text :: .dashes texts :: _ =>
      .ok ((reading.operand shape (some text)).afterDashes shape texts)
  | .operand text :: words => readWords shape (reading.operand shape (some text)) words
  | .dashes texts :: _ => .ok (reading.leadingDashes shape texts)
  | .unknown _ :: words => readWords shape { reading with leftover := true } words
  | .short flag attached :: words => do
      let reading ← reading.short shape flag attached
      readWords shape reading words
  | .long flag (.equals value) :: words =>
      if flag.takesValue then
        readWords shape (reading.addConstraint (String.ofList value)) words
      else .error (.mistake shape.usage)
  -- A flag that takes a value takes the word behind it, which must be an operand.
  | .long .constraint _ :: .operand item :: words =>
      readWords shape (reading.addConstraint item) words
  | .long flag _ :: words =>
      if flag.takesValue then .error (.mistake shape.usage)
      else do
        let reading ← reading.setFlag shape flag
        readWords shape reading words

def usageOf (command rest : String) : String :=
  "usage: perch " ++ command ++ rest ++ "\n"

def programUsage : String :=
  usageOf "" "[-h] [-v] \x7bcompile,match,dispatch\x7d ..."

def constraintUsage : String := "[-h] [--where NAME=REGEX] "

-- The part of the line before the command.
def programShape : Shape where
  usage := programUsage
  flags := [.help, .verbose]
  operands := 0

def commandShape? : String → Option Shape
  | "compile" => some ⟨usageOf "compile " (constraintUsage ++ "template"), [.help, .constraint], 1⟩
  | "match" =>
      some ⟨usageOf "match " (constraintUsage ++ "template path"), [.help, .constraint], 2⟩
  | "dispatch" => some ⟨usageOf "dispatch " "[-h] route path", [.help], 2⟩
  | _ => none

def commandOf? (name : String) (reading : Reading) : Option Command :=
  match name, reading.operands with
  | "compile", [template] => some (.compile reading.constraints template)
  | "match", [template, path] => some (.match reading.constraints template path)
  | "dispatch", [route, path] => some (.dispatch route path)
  | _, _ => none

def mistake : Except Stop α := .error (.mistake programUsage)

def readCommand (reading : Reading) (name : String) (texts : List String) :
    Except Stop Invocation := do
  let some shape := commandShape? name | mistake
  let some words := Word.readAll? shape.flags texts | .error (.mistake shape.usage)
  let own ← readWords shape {} words
  let some command := commandOf? name own | .error (.mistake shape.usage)
  if reading.leftover || own.leftover then mistake
  else pure { verbose := reading.verbose, command }

-- The first operand is the command, and all words behind it are its own. No double dash comes
-- before it.
def readProgram (reading : Reading) : List String → Except Stop Invocation
  | [] =>
      if reading.leftover then mistake else .ok { verbose := reading.verbose, command := none }
  | text :: texts =>
      if text = "--" then mistake
      else
        match Word.ofText? programShape.flags text with
        | some (.operand name) => readCommand reading name texts
        | some word => do
            let reading ← readWords programShape reading [word]
            readProgram reading texts
        | none => mistake

-- All words are looked at before the first one counts.
def read (texts : List String) : Except Stop Invocation :=
  match Word.readAll? programShape.flags texts with
  | some _ => readProgram {} texts
  | none => mistake

end Signpost.CommandLine
