import PlaybookLint.Shell.Grammar
import PlaybookLint.Shell.Redirection

/-!
Carrying out the text of a script: it is read command by command, so what stands before a fault is
carried out. Also here: what is shown of commands as they are carried out, and what is done on signals.
-/

namespace PlaybookLint.Shell

open PlaybookLint.Shell.Action

/-- Where the text of a script stands. -/
inductive Origin where
  /-- It is all that a shell carries out: a fault is its end. -/
  | whole
  /-- The same, the text being one of the words of the shell. -/
  | word
  /-- It is carried out for a command of another script, which goes on. -/
  | part
deriving Repr, DecidableEq

/-- What the larger shell says of a fault. -/
def extendedFault (fault : SyntaxFault) (text : Octets) : List Octets :=
  let near (sign : Octets) : List Octets :=
    [ofText "syntax error near unexpected token \x60" ++ sign ++ ['\''],
      ['\x60'] ++ ((linesOf text)[fault.line - 1]?).getD [] ++ ['\'']]
  match fault.cause with
  | .unexpected .ending _ => [ofText "syntax error: unexpected end of file"]
  | .unexpected (.word w) _ => near ((Word.bare? w).getD [])
  | .unexpected (.keyword name) _ => near name.toList
  | .unexpected (.operator sign) _ => near sign.toList
  | .unexpected (.redirect _ sign) _ => near sign.toList
  | .unexpected .newline _ => near (ofText "newline")
  | .unterminatedQuote quote =>
    [ofText "unexpected EOF while looking for matching \x60" ++ [quote, '\'']]
  | .missingBrace => [ofText "unexpected EOF while looking for matching \x60\x7d'"]
  | .missingParentheses => [ofText "unexpected EOF while looking for matching \x60)'"]
  | .openBackquote => [ofText "unexpected EOF while looking for matching \x60\x60'"]
  | .badLoopVariable name => [['\x60'] ++ name ++ ofText "': not a valid identifier"]
  | .badFunctionName name => [['\x60'] ++ name ++ ofText "': not a valid identifier"]
  | .tooDeep => [ofText "syntax error"]

/-- The line that the larger shell tells for a fault: an end that is not expected is on a line of its
own. -/
def extendedLine (fault : SyntaxFault) (text : Octets) : Nat :=
  match fault.cause with
  | .unexpected .ending _ => if text.getLast? == some '\n' then fault.line else fault.line + 1
  | _ => fault.line

/-- Says why a script cannot be read; that is the end of it. -/
def refuseScript (origin : Origin) (fault : SyntaxFault) (text : Octets) : Action Unit := do
  modify fun s => { s with line := fault.line }
  let s ← get
  match s.dialect with
  | .plain => giveUp (ofText ("Syntax error: " ++ fault.cause.message))
  | .extended => do
    let within : Octets :=
      if origin == .word then ofText "-c: " else (s.builtin.map (· ++ ofText ": ")).getD []
    let line := numberText (extendedLine fault text)
    for told in extendedFault fault text do
      say (s.name ++ ofText ": " ++ within ++ ofText "line " ++ line ++ ofText ": " ++ told ++ ['\n'])
    if origin == .part then setStatus 2 else throw (.exit 2)

/-- Carries out what has been read in a script. To the larger shell no builtin is at work then. -/
def runRead (isLast : Bool) (act : Action Unit) : Action Unit :=
  around
    (fun s => { s with
      departing := s.departing && isLast
      builtin := if s.dialect == .extended then none else s.builtin })
    (fun before after => { after with departing := before.departing, builtin := before.builtin })
    act

/-- Shows the lines that have been read, if that is asked for. -/
def echoRead (before after : Octets) : Action Unit := do
  if (← get).switches.echoesInput then say (before.take (before.length - after.length))

/-- Carries out the text of a script whose first line has a number. Was there anything in it? -/
def runText (run : Runner) (origin : Origin) (firstLine : Nat) (text : Octets) : Action Bool := do
  let input := { Input.ofScript (← get).dialect text with line := firstLine }
  go (text.length + 2) input false
where
  go : Nat → Input → Bool → Action Bool
    | 0, _, ran => return ran
    | fuel + 1, input, ran => do
      let s ← get
      let input := { input with
        aliases := s.aliases, nextDocument := s.nextDocument, documents := [] }
      match readUnit.run input with
      | .error fault => do
        echoRead input.rest fault.rest
        refuseScript origin fault text
        return true
      | .ok (none, _) => return ran
      | .ok (some commands, rest) => do
        echoRead input.rest rest.rest
        modify fun s => { s with
          documents := rest.documents ++ s.documents, nextDocument := rest.nextDocument }
        if !(← get).switches.readsOnly && !commands.isEmpty then
          runRead rest.rest.isEmpty (run (.commands commands))
        go fuel rest (ran || !commands.isEmpty)

/-- What stands before a command that is shown. -/
def traceStart (run : Runner) : Action Octets := do
  let s ← get
  let sign := s.value "PS4".toList
  let shown ← match (wordWithin nestingLimit .document).run (Input.ofScript s.dialect sign) with
    | .ok (w, _) => (expander run).text w
    | .error _ => pure sign
  let repeated : Octets := match s.dialect with
    | .plain => []
    | .extended => List.replicate s.gathering (shown.headD '+')
  return repeated ++ shown

/-- Shows what is carried out on the error channel that was there before, if that is asked for. -/
def trace (run : Runner) (errors : Option Nat) (assigned fields : List Octets) : Action Unit := do
  let s ← get
  if s.switches.traces then
    let silent (s : State) : State := { s with switches := { s.switches with traces := false } }
    let leave (before after : State) : State := { after with
      descriptors := before.descriptors
      switches := { after.switches with traces := before.switches.traces }
      status := before.status }
    around silent leave do
      match errors with
      | some n => connect 2 n
      | none => disconnect 2
      let start ← traceStart run
      let shown (words : List Octets) : Octets := start ++ [' '].intercalate words ++ ['\n']
      match s.dialect with
      | .plain => say (shown (assigned ++ fields))
      | .extended => do
        for a in assigned do say (shown [a])
        if !fields.isEmpty then say (shown (fields.map traced))
where
  traced (w : Octets) : Octets := if w.isEmpty then ['\'', '\''] else quoteExtended w

/-- Deals with the signals that have come; what is done then leaves the status as it was. -/
def answerSignals (run : Runner) : Action Unit := do
  let s ← get
  if s.pending.isEmpty && (s.inSubshell || s.system.signals.isEmpty) then return
  let sent := if s.inSubshell then [] else (s.system.signals.filter (·.1 == s.number)).map (·.2)
  let signals := (s.pending ++ sent).eraseDups.mergeSort (· ≤ ·)
  set { s with
    pending := []
    system := { s.system with signals := s.system.signals.filter (·.1 != s.number) } }
  for signal in signals do
    match (← get).traps.find? (·.signal == signal) with
    | some t =>
      if !t.action.isEmpty then
        let held (s : State) : State := { s with heldStatus := some s.status }
        let leave (before after : State) : State :=
          { after with heldStatus := before.heldStatus, status := before.status }
        around held leave (run (.script t.action))
    | none => pure ()

end PlaybookLint.Shell
