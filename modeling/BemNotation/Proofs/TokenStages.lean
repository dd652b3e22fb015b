import BemNotation.Source.Grammar

/-!
Reading token by token. Where a reader of tokens stands is a stage, and each token
leads to the next stage or to a fault. The reader of lines finds the fault that
stepping through the tokens of the source runs into, and none if there is none.
-/

namespace BemNotation.Source

open Naming (extendFirst)

namespace Token

/-- White space within a line. -/
def isBlank : Token → Bool
  | blank _ => true
  | _ => false

def isBreak : Token → Bool
  | lineBreak _ => true
  | _ => false

/-- White space and line breaks. -/
def isTrivia (t : Token) : Bool :=
  t.isBlank || t.isBreak

end Token

/-- Where a reader of tokens stands. In a list, `opening` is the span of its
bracket and `last` that of the token read last, blanks aside. -/
inductive Stage where
  /-- Nothing of the line is read. `started` tells whether an earlier line was. -/
  | lineStart (started : Bool)
  | named
  | opened (opening : Span)
  | listed (opening last : Span)
  | separated (opening last : Span)
  | closed

namespace Stage

/-- The list that is still open: its bracket and the token read last. -/
def openList : Stage → Option (Span × Span)
  | opened opening => some (opening, opening)
  | listed opening last => some (opening, last)
  | separated opening last => some (opening, last)
  | _ => none

def unclosed (s : Stage) : Option Fault :=
  s.openList.map fun list => .unclosedList (list.1.cover list.2)

def nextLine : Stage → Stage
  | lineStart started => lineStart started
  | _ => lineStart true

/-- What is wrong with a token that no line begins with. -/
def noName (started : Bool) (t : Located Token) : Fault :=
  if started then .unexpectedToken t .elementName else .missingBlockName t.span

/-- The stage after a token that is neither blank nor a line break. -/
def solidStep : Stage → Located Token → Except Fault Stage
  | lineStart _, ⟨.name _, _⟩ => .ok named
  | lineStart started, t => .error (noName started t)
  | named, ⟨.openBracket, span⟩ => .ok (opened span)
  | named, t => .error (.unexpectedToken t .lineBreak)
  | opened opening, ⟨.name _, span⟩ => .ok (listed opening span)
  | opened opening, ⟨.closeBracket, span⟩ => .error (.emptyList (opening.cover span))
  | opened _, t => .error (.unexpectedToken t .modifierName)
  | listed opening _, ⟨.comma, span⟩ => .ok (separated opening span)
  | listed _ _, ⟨.closeBracket, _⟩ => .ok closed
  | listed _ _, t => .error (.unexpectedToken t .commaOrBracket)
  | separated opening _, ⟨.name _, span⟩ => .ok (listed opening span)
  | separated _ _, t => .error (.unexpectedToken t .modifierName)
  | closed, t => .error (.unexpectedToken t .lineBreak)

def step (s : Stage) (t : Located Token) : Except Fault Stage :=
  match t.value with
  | .blank _ => .ok s
  | .lineBreak _ =>
    match s.unclosed with
    | some fault => .error fault
    | none => .ok s.nextLine
  | _ => s.solidStep t

theorem step_blank (s : Stage) (t : Located Token) (h : t.value.isBlank = true) :
    s.step t = .ok s := by
  obtain ⟨value, span⟩ := t
  cases value <;> first | rfl | simp [Token.isBlank] at h

theorem step_break (s : Stage) (t : Located Token) (h : t.value.isBreak = true) :
    s.step t =
      match s.unclosed with
      | some fault => .error fault
      | none => .ok s.nextLine := by
  obtain ⟨value, span⟩ := t
  cases value <;> first | rfl | simp [Token.isBreak] at h

theorem step_solid (s : Stage) (t : Located Token) (h : t.value.isTrivia = false) :
    s.step t = s.solidStep t := by
  obtain ⟨value, span⟩ := t
  cases value <;> first | rfl | simp [Token.isTrivia, Token.isBlank, Token.isBreak] at h

/-- What is missing when the tokens end. The span `whole` is for a source without
a name. -/
def endFault (whole : Span) : Stage → Option Fault
  | lineStart false => some (.missingBlockName whole)
  | s => s.unclosed

/-- The first fault from a stage on. -/
def run (whole : Span) (s : Stage) : List (Located Token) → Option Fault
  | [] => s.endFault whole
  | t :: ts =>
    match s.step t with
    | .error fault => some fault
    | .ok next => next.run whole ts

end Stage

def faultOf {α : Type} : Except Fault α → Option Fault
  | .error fault => some fault
  | .ok _ => none

theorem faultOf_eq_none_iff {α : Type} (x : Except Fault α) : faultOf x = none ↔ ∃ a, x = .ok a := by
  cases x <;> simp [faultOf]

theorem faultOf_eq_some_iff {α : Type} (x : Except Fault α) (fault : Fault) :
    faultOf x = some fault ↔ x = .error fault := by
  cases x <;> simp [faultOf]

/-- After its name and its list, a line ends. -/
def endOfLine : List (Located Token) → Option Fault
  | [] => none
  | t :: _ => some (.unexpectedToken t .lineBreak)

/-- The fault of a line from within its list on. -/
def listFault (opening last : Span) (line : List (Located Token)) : Option Fault :=
  match readNames opening last line with
  | .error fault => some fault
  | .ok (_, rest) => endOfLine rest

/-- The fault of a line after its name. -/
def modifiersFault (line : List (Located Token)) : Option Fault :=
  match readModifiers line with
  | .error fault => some fault
  | .ok (_, rest) => endOfLine rest

theorem listFault_comma (opening last span comma : Span) (text : List Char)
    (line : List (Located Token)) :
    listFault opening last (⟨.name text, span⟩ :: ⟨.comma, comma⟩ :: line) =
      listFault opening comma line := by
  unfold listFault
  rw [readNames]
  cases readNames opening comma line <;> rfl

/-- Of the name just read, only where it ends the list matters. -/
theorem listFault_name (opening last last' span : Span) (text text' : List Char)
    (line : List (Located Token)) :
    listFault opening last (⟨.name text, span⟩ :: line) =
      listFault opening last' (⟨.name text', span⟩ :: line) := by
  rcases line with _ | ⟨⟨_ | _ | _ | _ | _ | _, found⟩, line⟩
  case cons.comma => rw [listFault_comma, listFault_comma]
  all_goals rfl

theorem modifiersFault_openBracket (opening : Span) (t : Located Token)
    (line : List (Located Token)) (h : t.value ≠ .closeBracket) :
    modifiersFault (⟨.openBracket, opening⟩ :: t :: line) = listFault opening opening (t :: line) := by
  obtain ⟨value, span⟩ := t
  cases value with
  | closeBracket => exact absurd rfl h
  | _ => rfl

theorem faultOf_readEntry (noName : Located Token → Fault) (text : List Char) (span : Span)
    (line : List (Located Token)) :
    faultOf (readEntry noName ⟨.name text, span⟩ line) = modifiersFault line := by
  unfold readEntry modifiersFault
  cases readModifiers line with
  | error fault => rfl
  | ok found =>
    obtain ⟨modifiers, rest⟩ := found
    cases rest <;> rfl

theorem faultOf_readElements_cons (t : Located Token) (ts : List (Located Token))
    (rest : List (List (Located Token))) :
    faultOf (readElements ((t :: ts) :: rest)) =
      (faultOf (readEntry (Stage.noName true) t ts)).or (faultOf (readElements rest)) := by
  have hnoName : Stage.noName true = (.unexpectedToken · .elementName) := rfl
  rw [readElements, ← hnoName]
  cases readEntry (Stage.noName true) t ts with
  | error fault => rfl
  | ok element => cases readElements rest <;> rfl

theorem faultOf_readLines_cons (whole : Span) (t : Located Token) (ts : List (Located Token))
    (rest : List (List (Located Token))) :
    faultOf (readLines whole ((t :: ts) :: rest)) =
      (faultOf (readEntry (Stage.noName false) t ts)).or (faultOf (readElements rest)) := by
  have hnoName : Stage.noName false = fun t => .missingBlockName t.span := rfl
  rw [readLines, ← hnoName]
  cases readEntry (Stage.noName false) t ts with
  | error fault => rfl
  | ok block => cases readElements rest <;> rfl

namespace Stage

/-- The fault that the reader of lines finds in the rest of a line. -/
def lineFault : Stage → List (Located Token) → Option Fault
  | lineStart _, [] => none
  | lineStart started, t :: line => faultOf (readEntry (noName started) t line)
  | named, line => modifiersFault line
  | opened opening, line => modifiersFault (⟨.openBracket, opening⟩ :: line)
  | listed opening last, line => listFault opening last (⟨.name [], last⟩ :: line)
  | separated opening last, line => listFault opening last line
  | closed, line => endOfLine line

/-- The fault that the reader of lines finds in the rest of a line and the lines
after it. -/
def linesFault (whole : Span) (s : Stage) (line : List (Located Token))
    (rest : List (List (Located Token))) : Option Fault :=
  match s, line with
  | lineStart false, [] => faultOf (readLines whole rest)
  | s, line => (s.lineFault line).or (faultOf (readElements rest))

theorem lineFault_nil (s : Stage) : s.lineFault [] = s.unclosed := by
  cases s <;> rfl

theorem lineFault_cons (s : Stage) (t : Located Token) (line : List (Located Token))
    (h : t.value.isTrivia = false) :
    s.lineFault (t :: line) =
      match s.step t with
      | .error fault => some fault
      | .ok next => next.lineFault line := by
  obtain ⟨value, span⟩ := t
  cases value with
  | blank text => simp [Token.isTrivia, Token.isBlank] at h
  | lineBreak returns => simp [Token.isTrivia, Token.isBreak] at h
  | name text =>
    cases s with
    | lineStart started => exact faultOf_readEntry _ text span line
    | opened opening =>
      exact (modifiersFault_openBracket opening ⟨.name text, span⟩ line (by simp)).trans
        (listFault_name opening opening span span text [] line)
    | separated opening last => exact listFault_name opening last span span text [] line
    | _ => rfl
  | openBracket => cases s <;> rfl
  | closeBracket => cases s <;> rfl
  | comma =>
    cases s with
    | listed opening last => exact listFault_comma opening last last span [] line
    | _ => rfl

/-- A line that has begun does not become a line start again. -/
theorem ne_lineStart_of_step (s next : Stage) (t : Located Token) (started : Bool)
    (h : t.value.isTrivia = false) (hstep : s.step t = .ok next) : next ≠ lineStart started := by
  rintro rfl
  rw [step_solid s t h] at hstep
  unfold solidStep at hstep
  split at hstep <;> simp at hstep

theorem linesFault_of_ne (whole : Span) (s : Stage) (line : List (Located Token))
    (rest : List (List (Located Token))) (h : s ≠ lineStart false) :
    s.linesFault whole line rest = (s.lineFault line).or (faultOf (readElements rest)) := by
  unfold linesFault
  split
  · exact absurd rfl h
  · rfl

theorem linesFault_lineStart (whole : Span) (line : List (Located Token))
    (rest : List (List (Located Token))) :
    linesFault whole (lineStart false) line rest = faultOf (readLines whole (line :: rest)) ∧
      linesFault whole (lineStart true) line rest = faultOf (readElements (line :: rest)) := by
  cases line with
  | nil => exact ⟨rfl, rfl⟩
  | cons t ts =>
    exact ⟨(faultOf_readLines_cons whole t ts rest).symm,
      (faultOf_readElements_cons t ts rest).symm⟩

theorem linesFault_cons (whole : Span) (s : Stage) (t : Located Token)
    (line : List (Located Token)) (rest : List (List (Located Token)))
    (h : t.value.isTrivia = false) :
    s.linesFault whole (t :: line) rest =
      match s.step t with
      | .error fault => some fault
      | .ok next => next.linesFault whole line rest := by
  have hline : s.linesFault whole (t :: line) rest =
      (s.lineFault (t :: line)).or (faultOf (readElements rest)) := by
    unfold linesFault
    split <;> simp_all
  rw [hline, lineFault_cons s t line h]
  cases hstep : s.step t with
  | error fault => rfl
  | ok next =>
    exact (linesFault_of_ne whole next line rest (ne_lineStart_of_step s next t false h hstep)).symm

theorem linesFault_break (whole : Span) (s : Stage) (line : List (Located Token))
    (rest : List (List (Located Token))) :
    s.linesFault whole [] (line :: rest) =
      match s.unclosed with
      | some fault => some fault
      | none => s.nextLine.linesFault whole line rest := by
  obtain ⟨hfirst, hlater⟩ := linesFault_lineStart whole line rest
  by_cases hs : s = lineStart false
  · subst hs
    exact hfirst.symm
  · rw [linesFault_of_ne whole s [] _ hs, lineFault_nil]
    cases s with
    | lineStart started =>
      obtain rfl : started = true := by simpa using hs
      exact hlater.symm
    | named => exact hlater.symm
    | closed => exact hlater.symm
    | _ => rfl

end Stage

theorem exists_tokenLines (ts : List (Located Token)) :
    ∃ line rest, tokenLines ts = line :: rest := by
  apply List.exists_cons_of_ne_nil
  fun_induction tokenLines ts with
  | case1 => simp
  | case2 t ts text hvalue ih => exact ih
  | case3 => simp
  | case4 t ts hblank hbreak ih =>
    unfold extendFirst
    split <;> simp

/-- What the reader of lines finds, stepping through the tokens runs into. -/
theorem Stage.run_eq_linesFault (whole : Span) (s : Stage) (ts : List (Located Token))
    (line : List (Located Token)) (rest : List (List (Located Token)))
    (h : tokenLines ts = line :: rest) : s.run whole ts = s.linesFault whole line rest := by
  induction ts generalizing s line rest with
  | nil =>
    obtain ⟨rfl, rfl⟩ : [] = line ∧ [] = rest := by simpa [tokenLines] using h
    cases s with
    | lineStart started => cases started <;> rfl
    | _ => rfl
  | cons t ts ih =>
    obtain ⟨first, others, hlines⟩ := exists_tokenLines ts
    obtain ⟨value, span⟩ := t
    cases value with
    | blank text =>
      exact ih s line rest h
    | lineBreak returns =>
      obtain ⟨rfl, rfl⟩ : [] = line ∧ first :: others = rest := by
        simpa [tokenLines, hlines] using h
      rw [linesFault_break, run, step]
      cases hs : s.unclosed with
      | some fault => simp
      | none => simpa [hs] using ih s.nextLine first others hlines
    | _ =>
      obtain ⟨rfl, rfl⟩ : _ :: first = line ∧ others = rest := by
        simpa [tokenLines, hlines, extendFirst] using h
      rw [linesFault_cons whole s _ first others rfl, run]
      split
      · rfl
      · exact ih _ first others hlines

theorem faultOf_readOutline (ts : List (Located Token)) :
    faultOf (readOutline ts) = (Stage.lineStart false).run (spanOf ts) ts := by
  obtain ⟨line, rest, hlines⟩ := exists_tokenLines ts
  rw [Stage.run_eq_linesFault (spanOf ts) _ ts line rest hlines,
    (Stage.linesFault_lineStart (spanOf ts) line rest).1, ← hlines]
  rfl

end BemNotation.Source
