import LateBinding.Lock.Sections

/-!
# Blocks of synchronized work

A block runs its body inside the section of an object and leaves the section when the
body ends, whether it ends normally or by a panic. A panic goes on to the surrounding
work after the section is left, through any number of blocks, until something catches
it. A body may enter and leave sections on its own. If it leaves the block's section
itself, the end of the block finds nothing to leave, which is fatal.
-/

namespace LateBinding

/-- What one can ask about sections. -/
inductive SectionQuestion where
  | size
  | isEmpty
  | description
deriving DecidableEq

/-- A piece of work on sections. -/
inductive SectionWork where
  | enter (object : Object)
  | leave (object : Object)
  | ask (question : SectionQuestion)
  /-- Ends the work around it with a text. -/
  | panic (text : String)
  /-- Runs a body inside the section of an object. -/
  | block (object : Object) (body : List SectionWork)
  /-- Turns a panic of the work into an answer. -/
  | catching (work : SectionWork)

/-- What a piece of work gives. -/
inductive SectionAnswer where
  | done
  | refused (error : Error)
  | number (n : Nat)
  | flag (b : Bool)
  /-- The sections as they were. -/
  | described (sections : Sections)
  | finished (answers : List SectionAnswer)
  | panicked (text : String)

/-- Why work does not come to its end. -/
inductive SectionStop where
  | panicked (text : String)
  | fatal (error : Error)
  /-- The thread has to wait for another one. -/
  | waits
deriving DecidableEq

/-- Work in progress: a result, or the reason to stop. Either way the sections remain. -/
abbrev Working := EStateM SectionStop Sections

namespace SectionWork

/-- Enters a section, or stops to wait. -/
def entering (thread : Thread) (object : Object) : Working Unit := do
  match (← get).enter? thread object with
  | some entered => set entered
  | none => throw .waits

/-- Leaves a section. The error is given back. -/
def leaving (thread : Thread) (object : Object) : Working (Except Error Unit) := do
  match (← get).leave thread object with
  | .ok left => set left; return .ok ()
  | .error error => return .error error

/-- Gives back the text of a panic in place of a result. -/
def settled {α : Type} (work : Working α) : Working (Except String α) := fun sections =>
  match work sections with
  | .ok result after => .ok (.ok result) after
  | .error (.panicked text) after => .ok (.error text) after
  | .error stop after => .error stop after

/-- The answer to a question. -/
def answer (sections : Sections) : SectionQuestion → SectionAnswer
  | .size => .number sections.size
  | .isEmpty => .flag (sections.size == 0)
  | .description => .described sections

mutual

/-- Does a piece of work on behalf of a thread. -/
def perform (thread : Thread) : SectionWork → Working SectionAnswer
  | .enter object => do
    entering thread object
    return .done
  | .leave object => do
    match ← leaving thread object with
    | .ok _ => return .done
    | .error error => return .refused error
  | .ask question => return answer (← get) question
  | .panic text => throw (.panicked text)
  | .block object body => do
    entering thread object
    let ended ← settled (performAll thread body)
    match ← leaving thread object with
    | .error error => throw (.fatal error)
    | .ok _ =>
      match ended with
      | .ok answers => return .finished answers
      | .error text => throw (.panicked text)
  | .catching work => do
    match ← settled (perform thread work) with
    | .ok result => return result
    | .error text => return .panicked text

/-- Does several pieces of work, one after the other. -/
def performAll (thread : Thread) : List SectionWork → Working (List SectionAnswer)
  | [] => return []
  | work :: rest => do
    let first ← perform thread work
    let others ← performAll thread rest
    return first :: others

end

end SectionWork

end LateBinding
