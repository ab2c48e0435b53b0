import SchemaDiagram.Text.Word

/-!
The options of a run, read from its arguments: paths in one row, and switches before or after
them. A long switch may be cut short as long as it stays the only one, and a value may stand
after its switch or be joined to it.
-/
namespace SchemaDiagram.CommandLine

inductive Switch where
  | help
  | output
  | relations
  | logLevel
deriving DecidableEq

namespace Switch

def all : List Switch := [help, output, relations, logLevel]

/-- The long form, after its two dashes. -/
def long : Switch → Text
  | help => "help".toList
  | output => "output".toList
  | relations => "relations".toList
  | logLevel => "log-level".toList

/-- The switch of a letter after one dash. -/
def ofLetter? (c : Char) : Option Switch :=
  if c = 'h' then some help
  else if c = 'o' then some output
  else if c = 'r' then some relations
  else none

end Switch

/-- What an argument is, before any of them takes effect. -/
inductive Argument where
  | plain (text : Text)
  /-- Two dashes: all that follows is plain. -/
  | divider
  /-- A switch, with the text behind it. Behind a letter the text may be joined to it without a
  sign between them. -/
  | switch (s : Switch) (joined : Bool) (value : Option Text)
  | unknown
  /-- The start of several switches. -/
  | ambiguous
deriving DecidableEq

namespace Argument

/-- Digits, with a point among them or in front of them. -/
def isNumeral (t : Text) : Bool :=
  let t := if t.getLast? = some '\n' then t.dropLast else t
  match t.dropWhile Text.isDigit with
  | [] => !t.isEmpty
  | '.' :: fraction => !fraction.isEmpty && fraction.all Text.isDigit
  | _ => false

/-- An argument with a dash in front that is no switch. -/
def other (t : Text) : Argument :=
  if isNumeral t || t.contains ' ' then plain ('-' :: t) else unknown

/-- A long switch, given what follows its dashes. -/
def ofLong (t : Text) : Argument :=
  let name := t.takeWhile (· != '=')
  let value := match t.dropWhile (· != '=') with
    | _ :: value => some value
    | [] => none
  match Switch.all.find? (·.long == name) with
  | some s => switch s false value
  | none =>
    match Switch.all.filter fun s => name.isPrefixOf s.long with
    | [] => other ('-' :: t)
    | [s] => switch s false value
    | _ => ambiguous

def ofText : Text → Argument
  | ['-'] => plain ['-']
  | '-' :: '-' :: t => ofLong t
  | '-' :: c :: t =>
    match Switch.ofLetter? c, t with
    | some s, [] => switch s false none
    | some s, '=' :: value => switch s false (some value)
    | some s, value => switch s true (some value)
    | none, _ => other (c :: t)
  | t => plain t

/-- What some arguments are; the first two dashes that stand alone end the switches. -/
def ofTexts : List Text → List Argument
  | [] => []
  | t :: ts => if t == ['-', '-'] then divider :: ts.map plain else ofText t :: ofTexts ts

end Argument

/-- Why arguments start no run. -/
inductive Halt where
  | help
  | misuse
deriving DecidableEq

/-- The options of a run; an empty text is no file. -/
structure Options where
  paths : List Text := []
  output : Text := []
  relations : Text := []
  logLevel : Option Text := none
deriving DecidableEq

namespace Options

/-- Options read so far: whether the row of paths has begun and ended, and whether an argument
is left over. -/
structure Progress where
  options : Options := {}
  begun : Bool := false
  ended : Bool := false
  extra : Bool := false
deriving DecidableEq

namespace Progress

/-- A switch ends the row of paths. -/
def endRow (p : Progress) : Progress := { p with ended := p.ended || p.begun }

/-- Paths stand in one row; one behind it is left over. -/
def path (p : Progress) (t : Text) : Progress :=
  if p.ended then { p with extra := true }
  else { p with begun := true, options := { p.options with paths := p.options.paths ++ [t] } }

def divide (p : Progress) : Progress :=
  if p.ended then { p with extra := true } else { p with begun := true }

/-- The value of a switch; later ones win. -/
def set (p : Progress) (s : Switch) (value : Text) : Progress :=
  match s with
  | .output => { p with options := { p.options with output := value } }
  | .relations => { p with options := { p.options with relations := value } }
  | .logLevel => { p with options := { p.options with logLevel := some value } }
  | .help => p

end Progress

/-- Letters joined to the one that asks for help are more switches, up to one that is none. A dash
in their place or a value for the help is misuse, and the last one may need the next argument. -/
def helpWith : Text → List Argument → Halt
  | [], _ => .help
  | c :: t, rest =>
    if c = '-' then .misuse
    else
      match Switch.ofLetter? c, t, rest with
      | none, _, _ => .help
      | some .help, '=' :: _, _ => .misuse
      | some .help, t, rest => helpWith t rest
      | some _, [], .plain _ :: _ => .help
      | some _, [], _ => .misuse
      | some _, _ :: _, _ => .help

/-- Takes the arguments one after the other. -/
def read (p : Progress) : List Argument → Except Halt Progress
  | [] => .ok p
  | .plain t :: rest => read (p.path t) rest
  | .divider :: rest => read p.divide rest
  | .unknown :: rest => read { p.endRow with extra := true } rest
  | .ambiguous :: _ => .error .misuse
  | .switch .help _ none :: _ => .error .help
  | .switch .help joined (some value) :: rest =>
    .error (if joined then helpWith value rest else .misuse)
  | .switch s _ (some value) :: rest => read (p.endRow.set s value) rest
  | .switch s _ none :: .plain value :: rest => read (p.endRow.set s value) rest
  | .switch _ _ none :: _ => .error .misuse

/-- The options of some arguments. Without paths the working folder is the only one. -/
def ofArguments (args : List Text) : Except Halt Options :=
  let args := Argument.ofTexts args
  if args.contains .ambiguous then .error .misuse
  else
    match read {} args with
    | .error halt => .error halt
    | .ok p =>
      if p.extra then .error .misuse
      else .ok { p.options with
        paths := if p.options.paths.isEmpty then [['.']] else p.options.paths }

end Options
end SchemaDiagram.CommandLine
