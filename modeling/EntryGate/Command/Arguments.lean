import EntryGate.Command.Help

/-!
# Command line arguments

A command line is made of long options, each with one value, and the name of a command.  The value
of an option follows it, or stands behind an equals sign in the same argument.  A value that stands
alone may not look like an option, unless the option allows it; a single dash is an ordinary value.
Two dashes end the options, and since there are no other arguments nothing may follow them.

A value that stands alone is looked at late: it waits until the next option, a request for help, or
the end of what is being read.

* `Lexeme` is what an argument looks like;
* `scan` reads options, from left to right, into a value of any type `σ`;
* `Progress.settle` takes over the value that waits.
-/

namespace EntryGate

namespace Command

/-- Why a command line is not carried out. -/
inductive Halt where
  /-- The user asks for help. -/
  | help (topic : Topic)
  /-- The command line is not understood. -/
  | usage
deriving DecidableEq, Repr

/-- What an argument looks like. -/
inductive Lexeme where
  /-- Two dashes. -/
  | endOfOptions
  /-- Two dashes and a name, with the value behind an equals sign if there is one. -/
  | long (name : String) (value : Option String)
  /-- A dash and at least one letter. -/
  | short (letter : Char)
  /-- A value or the name of a command. -/
  | plain
deriving DecidableEq, Repr

namespace Lexeme

/-- A name with the value behind the first equals sign. -/
def ofLong (cs : List Char) : Lexeme :=
  let name := String.ofList (cs.takeWhile fun c => c != '=')
  match cs.dropWhile fun c => c != '=' with
  | [] => .long name none
  | _ :: value => .long name (some (String.ofList value))

def ofArgument (arg : String) : Lexeme :=
  match arg.toList with
  | ['-', '-'] => .endOfOptions
  | '-' :: '-' :: cs => ofLong cs
  | '-' :: c :: _ => .short c
  | _ => .plain

end Lexeme

/-- An option that takes a value. -/
structure OptionSpec (σ : Type) where
  name : String
  /-- Whether a value that looks like an option is taken as a value. -/
  allowsDash : Bool
  /-- Takes the value over, unless it cannot be read or there is one already. -/
  assign : String → σ → Option σ

namespace OptionSpec

variable {σ : Type}

/-- An option that may be given once. -/
def once {α : Type} (name : String) (read : String → Option α) (get : σ → Option α)
    (set : α → σ → σ) : OptionSpec σ where
  name := name
  allowsDash := false
  assign text s :=
    match get s with
    | some _ => none
    | none => (read text).map fun a => set a s

/-- The same option with values that may look like options. -/
def dashed (o : OptionSpec σ) : OptionSpec σ :=
  { o with allowsDash := true }

/-- Whether an argument can be the value of the option in front of it. -/
def takes (o : OptionSpec σ) (arg : String) : Bool :=
  o.allowsDash || Lexeme.ofArgument arg == .plain

/-- Takes a value over. -/
def accept (o : OptionSpec σ) (text : String) (s : σ) : Except Halt σ :=
  match o.assign text s with
  | some s => .ok s
  | none => .error .usage

end OptionSpec

/-- How far the reading of options has come. -/
structure Progress (σ : Type) where
  /-- What has been taken over. -/
  values : σ
  /-- The last option, with its value, while it has not been taken over. -/
  waiting : Option (OptionSpec σ × String)

namespace Progress

variable {σ : Type}

/-- Nothing waits. -/
def settled (values : σ) : Progress σ := ⟨values, none⟩

/-- Takes over the value that waits. -/
def settle (p : Progress σ) : Except Halt σ :=
  match p.waiting with
  | none => .ok p.values
  | some (o, text) => o.accept text p.values

@[simp]
theorem settle_settled (values : σ) : (settled values).settle = .ok values := rfl

/-- Gives help, unless the value that waits is wrong. -/
def askHelp (topic : Topic) (p : Progress σ) : Halt :=
  match p.settle with
  | .ok _ => .help topic
  | .error e => e

end Progress

/-- Reads options up to the first argument that is neither an option nor the value of one; gives
what has been read and the arguments from there on.  The topic is that of a request for help. -/
def scan {σ : Type} (topic : Topic) (options : List (OptionSpec σ)) :
    Progress σ → List String → Except Halt (Progress σ × List String)
  | p, [] => .ok (p, [])
  | p, arg :: rest =>
    match Lexeme.ofArgument arg with
    | .plain => .ok (p, arg :: rest)
    | .endOfOptions => if rest.isEmpty then .ok (p, []) else .error .usage
    | .short letter => .error (if letter = 'h' then p.askHelp topic else .usage)
    | .long name value =>
      if name = "help" then .error (if value.isNone then p.askHelp topic else .usage)
      else
        match options.find? (fun o => o.name == name), value, rest with
        | none, _, _ => .error .usage
        | some o, some text, rest => do
          let s ← o.accept text (← p.settle)
          scan topic options (.settled s) rest
        | some _, none, [] => .error .usage
        | some o, none, text :: rest =>
          if o.takes text then do scan topic options ⟨← p.settle, some (o, text)⟩ rest
          else .error .usage

end Command

end EntryGate
