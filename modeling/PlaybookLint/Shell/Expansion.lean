import PlaybookLint.Shell.Arithmetic
import PlaybookLint.Shell.Glob
import PlaybookLint.Shell.Signal

/-!
Expanding words. What comes out of a value that is not quoted falls into fields; fields with patterns
stand for the files that they match.
-/

namespace PlaybookLint.Shell

/-- A part of an expanded word. A boundary divides fields; a mark makes a field that may be empty. -/
inductive Atom where
  | octet (c : Char) (quoted splits : Bool)
  | mark
  | boundary
deriving Repr, DecidableEq

/-- The atoms of a text that is a value. -/
def valueAtoms (quoted : Bool) (s : Octets) : List Atom := s.map (.octet · quoted !quoted)

/-- The atoms of a text in a script. -/
def plainAtoms (splits : Bool) (s : Octets) : List Atom := s.map (.octet · false splits)

def quotedAtoms (s : Octets) : List Atom := .mark :: s.map (.octet · true false)

/-- The text of atoms that are not divided. -/
def joinAtoms (atoms : List Atom) : Octets :=
  atoms.filterMap fun
    | .octet c _ _ => some c
    | .boundary => some ' '
    | .mark => none

/-- Atoms read as a pattern. -/
def globTextOf (atoms : List Atom) : GlobText :=
  atoms.filterMap fun
    | .octet c quoted _ => some (c, quoted)
    | .boundary => some (' ', true)
    | .mark => none

/-- The fields of atoms, `current` being the field at work. A separator that is no blank ends a field
even if that is empty; blanks around it do not count, `absorbs` telling that one has just ended a
field. -/
def fieldsFrom (separators : Octets) : Option GlobText → Bool → List Atom → List GlobText
  | current, _, [] => (current.map List.reverse).toList
  | current, _, .boundary :: rest =>
    (current.map List.reverse).toList ++ fieldsFrom separators none false rest
  | current, _, .mark :: rest => fieldsFrom separators (some (current.getD [])) false rest
  | current, absorbs, .octet c quoted splits :: rest =>
    if !splits || !separators.contains c then
      fieldsFrom separators (some ((c, quoted) :: current.getD [])) false rest
    else if isBlank c || c == '\n' then
      match current with
      | none => fieldsFrom separators none absorbs rest
      | some field => field.reverse :: fieldsFrom separators none true rest
    else
      match current with
      | some field => field.reverse :: fieldsFrom separators none false rest
      | none =>
        if absorbs then fieldsFrom separators none false rest
        else [] :: fieldsFrom separators none false rest

def fieldsOf (separators : Octets) (atoms : List Atom) : List GlobText :=
  fieldsFrom separators none false atoms

/-- The names in a directory. -/
def namesAt (tree : Files.Tree) (place : Files.Place) : List String :=
  let inside := tree.filterMap fun (p, _) =>
    if p.length == place.length + 1 && p.dropLast == place then p.getLast? else none
  inside.eraseDups

/-- Is one text before another, octet by octet? -/
def isBefore : Octets → Octets → Bool
  | [], [] => false
  | [], _ :: _ => true
  | _ :: _, [] => false
  | c :: s, d :: t => c < d || (c == d && isBefore s t)

def sortTexts (texts : List Octets) : List Octets := texts.mergeSort fun a b => !isBefore b a

/-- The parts of a pattern between slashes. -/
def splitPath : GlobText → List GlobText
  | [] => [[]]
  | (c, quoted) :: rest =>
    if c == '/' then [] :: splitPath rest
    else
      match splitPath rest with
      | [] => [[(c, quoted)]]
      | piece :: pieces => ((c, quoted) :: piece) :: pieces

/-- The paths that go on with one part of a pattern. -/
def extendPath (caret : Bool) (tree : Files.Tree) (cwd : Files.Place) (last : Bool)
    (part : GlobText) (base : Octets) : List Octets :=
  let g := Glob.ofText caret part
  if g.isPlain then [base ++ g.plainText]
  else
    match Files.walk tree cwd (if base.isEmpty then "." else toText base) with
    | .error _ => []
    | .ok place =>
      let names := ((namesAt tree place).map ofText).filter fun name =>
        g.admits name && (name.head? != some '.' || (part.head?.map (·.1)) == some '.')
      (names.map (base ++ ·)).filter fun path =>
        last || (match Files.stat tree cwd (toText path) with
          | .ok node => node == .directory
          | .error _ => false)

/-- The paths that the parts of a pattern stand for. -/
def pathsOf (caret : Bool) (tree : Files.Tree) (cwd : Files.Place) :
    List GlobText → List Octets → List Octets
  | [], bases => bases
  | [part], bases => bases.flatMap (extendPath caret tree cwd true part)
  | part :: rest, bases =>
    let next := bases.flatMap (extendPath caret tree cwd false part)
    pathsOf caret tree cwd rest (next.map (· ++ ['/']))

/-- Is there something at the end of a path, be it a link that leads nowhere? -/
def isAt (tree : Files.Tree) (cwd : Files.Place) (path : Octets) : Bool :=
  let text := toText path
  match Files.walk tree cwd text with
  | .ok place => (tree.at? place).isSome
  | .error _ =>
    let parts := text.splitOn "/"
    let parent := "/".intercalate parts.dropLast
    let parent := if parent.isEmpty then (if Files.isRooted text then "/" else ".") else parent
    match Files.walk tree cwd parent, parts.getLast? with
    | .ok place, some name => (tree.at? (place ++ [name])).isSome
    | _, _ => false

/-- The files that a field stands for, if it is a pattern and there are any. -/
def filesOf? (caret : Bool) (tree : Files.Tree) (cwd : Files.Place) (field : GlobText) :
    Option (List Octets) :=
  if !field.any fun (c, quoted) => !quoted && ['*', '?', '['].contains c then none
  else
    let found := (pathsOf caret tree cwd (splitPath field) [[]]).filter (isAt tree cwd)
    if found.isEmpty || (splitPath field).all fun part => (Glob.ofText caret part).isPlain then none
    else some (sortTexts found)

/-- The part of a text before a colon or slash, after a tilde. -/
def tildeName (s : Octets) (stops : List Char) : Octets := s.takeWhile (!stops.contains ·)

namespace State

/-- The directory of a user whose name follows a tilde. -/
def homeOf? (s : State) (name : Octets) : Option Octets :=
  match String.ofList name with
  | "" => s.value? "HOME".toList
  | "root" => some "/root".toList
  | "+" => if s.dialect == .extended then s.value? "PWD".toList else none
  | "-" => if s.dialect == .extended then s.value? "OLDPWD".toList else none
  | _ => none

/-- A word with a tilde at its beginning replaced. -/
def tilde (s : State) (stops : List Char) : Word → Word
  | .plain ('~' :: text) :: rest =>
    let name := tildeName text stops
    let after := text.drop name.length
    if after.isEmpty && !rest.isEmpty then .plain ('~' :: text) :: rest
    else
      match s.homeOf? name with
      | some home => .quoted home :: (if after.isEmpty then rest else .plain after :: rest)
      | none => .plain ('~' :: text) :: rest
  | word => word

/-- A value that is assigned, with tildes at its beginning and after colons replaced. -/
def tildesWithin (s : State) : Nat → Word → Word
  | 0, word => word
  | fuel + 1, word =>
    match s.tilde ['/', ':'] word with
    | .quoted home :: rest =>
      match word with
      | .plain _ :: _ => .quoted home :: afterColon fuel rest
      | _ => .quoted home :: (if rest.isEmpty then [] else afterColon fuel rest)
    | word => afterColon fuel word
where
  afterColon (fuel : Nat) : Word → Word
    | [] => []
    | .plain text :: rest =>
      let before := text.takeWhile (· != ':')
      match text.drop before.length with
      | ':' :: after =>
        let more : Word := if after.isEmpty then rest else .plain after :: rest
        .plain (before ++ [':']) :: s.tildesWithin fuel more
      | _ => .plain text :: afterColon fuel rest
    | piece :: rest => piece :: afterColon fuel rest

end State

/-- What may be told of a value that is missing. -/
def missingText (dialect : Dialect) (ifEmpty : Bool) : Octets :=
  match dialect with
  | .plain => ofText (if ifEmpty then "parameter not set or null" else "parameter not set")
  | .extended => ofText (if ifEmpty then "parameter null or not set" else "parameter not set")

/-- A text without null characters. -/
def withoutNulls (s : Octets) : Octets := s.filter (· != '\x00')

/-- How many characters a text has: to the plain shell, octets. -/
def lengthIn (dialect : Dialect) (s : Octets) : Nat :=
  match dialect with
  | .plain => s.length
  | .extended => (toText s).length

/-- A part of a text from an offset on, as characters are counted. -/
def sliceText (s : Octets) (offset : Int) (length : Option Int) : Option Octets :=
  let chars := (toText s).toList
  let size : Int := chars.length
  let start := if offset < 0 then size + offset else offset
  if start < 0 || size < start then some []
  else
    let stop := match length with
      | none => size
      | some n => if n < 0 then size + n else min size (start + n)
    if stop < start then none
    else some (ofText (String.ofList ((chars.drop start.toNat).take (stop - start).toNat)))

def upperOf (c : Char) : Char := if 'a' ≤ c && c ≤ 'z' then Char.ofNat (c.toNat - 32) else c

def lowerOf (c : Char) : Char := if 'A' ≤ c && c ≤ 'Z' then Char.ofNat (c.toNat + 32) else c

/-- A text in another case, as far as the pattern admits its characters. -/
def recaseText (upper all : Bool) (g : Glob) (s : Octets) : Octets :=
  let change (c : Char) : Char :=
    if g.isEmpty || g.admits [c] then (if upper then upperOf c else lowerOf c) else c
  match s with
  | [] => []
  | c :: rest => if all then s.map change else change c :: rest

/-- A text with the places of a pattern replaced. -/
def replaceText (g : Glob) (instead : Octets) : Nat → Bool → Octets → Octets
  | 0, _, s => s
  | fuel + 1, all, s =>
    match findPattern? g s with
    | none => s
    | some (before, part, after) =>
      if part.isEmpty then s
      else before ++ instead ++ (if all then replaceText g instead fuel true after else after)

/-- A text with an end that a pattern stands for replaced. -/
def replaceEnd (atEnd : Bool) (g : Glob) (instead : Octets) (s : Octets) : Octets :=
  let fits (n : Nat) : Bool :=
    if atEnd then g.admits (s.drop (s.length - n)) else g.admits (s.take n)
  match (prefixLengths s).reverse.find? fits with
  | none => s
  | some n => if atEnd then s.take (s.length - n) ++ instead else instead ++ s.drop n

namespace Action

/-- Complains about a value that is missing. -/
def refuseUnset {α : Type} (name : Octets) : Action α := do
  match (← get).dialect with
  | .plain => giveUp (name ++ ofText ": parameter not set")
  | .extended => do
    complain (name ++ ofText ": unbound variable")
    throw (.exit 1)

/-- The status of a shell that goes no further. -/
def codeOf : Except Interruption Unit → Action Nat
  | .error (.exit code) => return code
  | .error .failed => return if (← get).dialect == .plain then 2 else 1
  | _ => return (← get).status

/-- Ends a shell: what it is to do at its end is done, and may change its status. -/
def conclude (run : Runner) (result : Except Interruption Unit) : Action Nat := do
  match result with
  | .error (.killed number signal) => throw (.killed number signal)
  | .error .never => throw .never
  | result => do
    let code ← codeOf result
    let s ← get
    match s.traps.find? fun t => t.signal == 0 && !t.action.isEmpty with
    | none => return code
    | some t => do
      set { s with traps := s.traps.filter (·.signal != 0), status := code, loops := 0
                   heldStatus := some code }
      match ← attempt (run (.script t.action)) with
      | .error (.exit code) => return code
      | .error .failed => return if (← get).dialect == .plain then 2 else code
      | .error (.killed number signal) => throw (.killed number signal)
      | .error .never => throw .never
      | _ => return code

/-- What is said of a process that a signal has ended. -/
def tellEnd (signal : Nat) : Action Unit := do
  match (← get).dialect with
  | .plain =>
    let text := endText signal
    if !text.isEmpty then say (ofText text ++ ['\n'])
  | .extended =>
    if !([2, 13, 15].contains signal) then say ((← complaintStart) ++ ofText (endText signal) ++ ['\n'])

/-- The state in which a copy of a shell begins: only signals that are ignored are still dealt with. -/
def copyOf (s : State) : State :=
  let deals : List Ancestor :=
    if s.inSubshell then [] else [⟨s.number, s.traps.map (·.signal)⟩]
  { s with inSubshell := true, departing := false, jobs := []
           traps := s.traps.filter (·.action.isEmpty), ancestors := deals ++ s.ancestors }

/-- Carries something out in a process of its own and gives its status. -/
def subshell (run : Runner) (act : Action Unit) : Action Nat := do
  let outer ← get
  set (copyOf outer)
  let result ← attempt do conclude run (← attempt act)
  let inner ← get
  set { outer with system := inner.system }
  match result with
  | .ok code => return code
  | .error (.killed number signal) => do
    let s ← get
    if number == s.number || s.ancestors.any (·.number == number) then throw (.killed number signal)
    else
      tellEnd signal
      return 128 + signal
  | .error e => throw e

/-- The output of commands. Whoever is left behind may keep it open. -/
def capture (run : Runner) (body : List Command) : Action Octets := do
  let n ← fresh
  let number ← openAs (.sink (.inner n))
  let status ← subshell run do
    connect 1 number
    modify fun s => { s with
      tested := false
      gathering := s.gathering + 1
      switches := { s.switches with
        exitsOnFailure := s.switches.exitsOnFailure && s.dialect == .plain } }
    run (.commands body)
  let (mine, others) := (← get).system.held.partition (·.sink == .inner n)
  for h in mine do
    match h.finish with
    | none => throw .never
    | some time => waitUntil time
  modifySystem fun y => { y with held := others }
  let pieces ← gather (.inner n)
  modify fun s => { s with
    status := if s.dialect == .plain then s.status else status
    outputStatus := some status }
  return withoutLastLines (withoutNulls (pieces.flatMap (·.2)))

end Action

open PlaybookLint.Shell.Action

/-- What stands between values that are joined: the first separator. -/
def joinWith (s : State) : Octets :=
  match (s.declared? "IFS".toList).bind (·.value) with
  | some separators => separators.take 1
  | none => [' ']

/-- The atoms of several values: with `fields` each is a field of its own, unless they are asked for
as one text. -/
def listAtoms (s : State) (values : List Octets) (joined fields quoted : Bool) : List Atom :=
  if !fields || (joined && quoted) then valueAtoms quoted ((joinWith s).intercalate values)
  else
    let one (v : Octets) : List Atom := if quoted then quotedAtoms v else valueAtoms false v
    (values.map one).intersperse [.boundary] |>.flatten

/-- The index of an element, and whether it means all of them. -/
inductive Index where
  | all (joined : Bool)
  | one (key : Octets)

/-- Expanding a part of a word, with what is nested in it. `fields` lets lists fall into fields, `splits`
tells that text in the script does so too. -/
structure Expander where
  run : Runner
  word : Bool → Bool → Word → Action (List Atom)

namespace Expander

/-- The text of a word that is not divided. -/
def text (x : Expander) (w : Word) : Action Octets := return joinAtoms (← x.word false false w)

/-- The pattern that a word is. -/
def glob (x : Expander) (w : Word) : Action Glob := do
  let caret := (← get).dialect == .extended
  return Glob.ofText caret (globTextOf (← x.word false false w))

/-- The value of a sum in a script. -/
def sum (x : Expander) (w : Word) : Action Int := do Arithmetic.evaluate (← x.text w)

/-- The key of an element of an array. -/
def indexOf (x : Expander) (name : Octets) (index : Word) : Action Index := do
  match Word.bare? index with
  | some ['@'] => return .all false
  | some ['*'] => return .all true
  | _ =>
    let keyed := (((← get).declared? name).map (·.keyed)).getD false
    if keyed then return .one (← x.text index)
    else
      let n ← x.sum index
      let elements := ((((← get).declared? name).bind (·.elements)).getD []).map (·.1)
      let last : Int := (elements.getLast?.map fun k => (digitsValue k : Int)).getD (-1)
      return .one (numberText (if n < 0 then last + 1 + n else n))

/-- The elements of an array; a plain variable has one. -/
def elementsOf (s : State) (name : Octets) : List (Octets × Octets) :=
  match s.declared? name with
  | some v => v.elements.getD (single v.value)
  | none => single (s.madeUp? (String.ofList name))
where
  single (value : Option Octets) : List (Octets × Octets) := value.toList.map ((['0'], ·))

/-- Changes a text as it is asked for, unless that needs to know whether it is there. -/
def change (x : Expander) (use : Use) (v : Octets) : Action Octets := do
  match use with
  | .trim fromEnd longest pattern => return trimPattern fromEnd longest (← x.glob pattern) v
  | .replace place pattern instead => do
    let g ← x.glob pattern
    let instead ← x.text instead
    match place with
    | some '#' => return replaceEnd false g instead v
    | some '%' => return replaceEnd true g instead v
    | place => return replaceText g instead (v.length + 1) place.isSome v
  | .recase upper all pattern => return recaseText upper all (← x.glob pattern) v
  | .slice offset length => do
    let offset ← x.sum offset
    let length ← length.mapM x.sum
    match sliceText v offset length with
    | some part => return part
    | none => giveUp (ofText "substring expression < 0")
  | _ => return v

/-- Says why a value is missing and gives up. -/
def demand (x : Expander) (name : Octets) (ifEmpty : Bool) (word : Word) : Action (List Atom) := do
  let dialect := (← get).dialect
  let told ← if word.isEmpty then pure (missingText dialect ifEmpty)
    else do x.text ((← get).tilde ['/'] word)
  match dialect with
  | .plain => giveUp (name ++ ofText ": " ++ told)
  | .extended => do
    complain (name ++ ofText ": " ++ told)
    throw (.exit 1)

/-- Assigns a value in a script. -/
def assignDefault (x : Expander) (name : Octets) (word : Word) (quoted : Bool) :
    Action (List Atom) := do
  let v ← x.text word
  if isName name then
    assign name v
    return valueAtoms quoted v
  else
    match (← get).dialect with
    | .plain => giveUp (name ++ ofText ": bad variable name")
    | .extended => giveUp (['$'] ++ name ++ ofText ": cannot assign in this way")

/-- Several values, each changed as it is asked for. -/
def listValue (x : Expander) (fields quoted joined : Bool) (name : Octets) (values : List Octets)
    (use : Use) : Action (List Atom) := do
  let s ← get
  let missing (ifEmpty : Bool) : Bool :=
    (s.dialect == .extended && values.isEmpty)
      || ifEmpty && ((joinWith s).intercalate values).isEmpty
  let whole := listAtoms s values joined fields quoted
  match use with
  | .length => return valueAtoms quoted (numberText values.length)
  | .instead ifEmpty word => if missing ifEmpty then x.word fields (!quoted) word else return whole
  | .alternative ifEmpty word =>
    if missing ifEmpty then return [] else x.word fields (!quoted) word
  | .demand ifEmpty word => if missing ifEmpty then x.demand name ifEmpty word else return whole
  | .assign ifEmpty word => if missing ifEmpty then x.assignDefault name word quoted else return whole
  | .broken => giveUp (ofText "Bad substitution")
  | .slice offset length => do
    let values := if isSpecialName (name.headD 'x') then s.name :: values else values
    let offset ← x.sum offset
    let length ← length.mapM x.sum
    let start := if offset < 0 then (values.length : Int) + offset else offset
    let chosen := values.drop start.toNat
    let chosen := match length with
      | some n => chosen.take n.toNat
      | none => chosen
    return listAtoms s (if start < 0 then [] else chosen) joined fields quoted
  | use => do
    let changed ← values.mapM (x.change use)
    return listAtoms s changed joined fields quoted

/-- One value that may be missing, changed as it is asked for. -/
def oneValue (x : Expander) (fields quoted : Bool) (name : Octets) (v : Option Octets)
    (use : Use) : Action (List Atom) := do
  let s ← get
  let missing (ifEmpty : Bool) : Bool :=
    match v with
    | none => true
    | some v => ifEmpty && v.isEmpty
  let whole := valueAtoms quoted (v.getD [])
  let orRefuse (act : Action (List Atom)) : Action (List Atom) :=
    if v.isNone && s.switches.refusesUnset then refuseUnset name else act
  match use with
  | .itself => orRefuse (return whole)
  | .length => orRefuse (return valueAtoms quoted (numberText (lengthIn s.dialect (v.getD []))))
  | .instead ifEmpty word => if missing ifEmpty then x.word fields (!quoted) word else return whole
  | .alternative ifEmpty word =>
    if missing ifEmpty then return [] else x.word fields (!quoted) word
  | .demand ifEmpty word => if missing ifEmpty then x.demand name ifEmpty word else return whole
  | .assign ifEmpty word => if missing ifEmpty then x.assignDefault name word quoted else return whole
  | .indirect =>
    match v with
    | some v => return valueAtoms quoted (s.value v)
    | none => giveUp (name ++ ofText ": invalid indirect expansion")
  | .broken =>
    match s.dialect with
    | .plain => giveUp (ofText "Bad substitution")
    | .extended => giveUp (['$', '\x7b'] ++ name ++ ['\x7d'] ++ ofText ": bad substitution")
  | use => orRefuse (return valueAtoms quoted (← x.change use (v.getD [])))

/-- The value of a name with what is made of it. -/
def value (x : Expander) (fields quoted : Bool) (name : Octets) (use : Use) :
    Action (List Atom) := do
  let s ← get
  match use with
  | .element index use => do
    match ← x.indexOf name index, use with
    | .all joined, .indirect =>
      return listAtoms s ((elementsOf s name).map (·.1)) joined fields quoted
    | .all joined, use => x.listValue fields quoted joined name ((elementsOf s name).map (·.2)) use
    | .one key, use => x.oneValue fields quoted name ((elementsOf s name).lookup key) use
  | use =>
    match name with
    | ['@'] => x.listValue fields quoted false name s.parameters use
    | ['*'] => x.listValue fields quoted true name s.parameters use
    | name => x.oneValue fields quoted name (s.value? name) use

/-- The atoms of a part of a word. -/
def piece (x : Expander) (fields splits : Bool) : Piece → Action (List Atom)
  | .plain s => return plainAtoms splits s
  | .quoted s => return quotedAtoms s
  | .value name use quoted => x.value fields quoted name use
  | .output body quoted => return valueAtoms quoted (← capture x.run body)
  | .sum expression quoted => return valueAtoms quoted (numberText (← x.sum expression))

end Expander

/-- Expands a word, as deep as words are nested in it. -/
def expandWithin (run : Runner) : Nat → Bool → Bool → Word → Action (List Atom)
  | 0, _, _, _ => throw .never
  | depth + 1, fields, splits, w => do
    let x : Expander := ⟨run, expandWithin run depth⟩
    let s ← get
    let w := if splits then s.tilde ['/'] w else w
    return (← w.mapM (x.piece fields splits)).flatten

/-- How deep words may be nested in each other. -/
def wordDepth : Nat := 64

def expander (run : Runner) : Expander := ⟨run, expandWithin run wordDepth⟩

/-- The text of a word that is not divided. -/
def expandText (run : Runner) (w : Word) : Action Octets := do
  (expander run).text ((← get).tilde ['/'] w)

/-- The text of a value that is assigned. -/
def expandAssigned (run : Runner) (w : Word) : Action Octets := do
  (expander run).text ((← get).tildesWithin (w.length + 64) w)

/-- The pattern that a word is. -/
def expandGlob (run : Runner) (w : Word) : Action Glob := do
  (expander run).glob ((← get).tilde ['/'] w)

/-- The fields of a word, patterns being replaced by files. -/
def expandFields (run : Runner) (w : Word) : Action (List Octets) := do
  let atoms ← (expander run).word true false ((← get).tilde ['/'] w)
  let s ← get
  let fields := fieldsOf s.separators atoms
  return fields.flatMap fun field =>
    let literal := field.map (·.1)
    if s.switches.keepsPatterns then [literal]
    else (filesOf? (s.dialect == .extended) s.system.tree s.place field).getD [literal]

end PlaybookLint.Shell
