import Playbook.Engine

/-!
# Courses

The course of a computation tells what it does up to the next call of the engine, and how it goes on
for every reply to that call. It also tells which names of facts a task is about to write. So a
course is finite whatever the calls do; they are answered elsewhere. Computations are put together
here in the ways in which the engine does it, and when all calls are answered by computations on
sessions, they are such computations as well.
-/

namespace Playbook

open Engine (Run)

/-- A place in a run: the names of the elements around it, and whether one of them is a loop. -/
structure Site where
  spans : List String
  looped : Bool

namespace Site

/-- The place where nothing is around. -/
def top : Site := ⟨[], false⟩

def inside (site : Site) (name : String) : Site :=
  { site with spans := site.spans ++ [name] }

def looping (site : Site) : Site :=
  { site with looped := true }

end Site

/-- A call of the engine. -/
inductive Call where
  | file (site : Site) (path : FilePath)
  | element (site : Site) (tree : Tree) (slot : Slot)
  /-- An element for the items that are left of its loop. -/
  | loop (site : Site) (tree : Tree) (slot : Slot) (element : Element) (items : List Json)
  /-- An element for one binding of its loop. -/
  | pass (site : Site) (tree : Tree) (slot : Slot) (element : Element)
  /-- The task of a resolved element. -/
  | task (site : Site) (element : Element) (environment : Environment)

def Call.site : Call → Site
  | .file site _ | .element site .. | .loop site .. | .pass site .. | .task site .. => site

/-- A write of a task to the facts: its output under a registered name, or the fields of its
configuration. -/
inductive Write where
  | register (name : String)
  | merge (fields : Config)

def Write.names : Write → List String
  | .register name => [name]
  | .merge fields => fields.map (·.1)

/-- What a call ends with. -/
abbrev Reply := Except ExecutionError Unit × Session

inductive Course (α : Type) where
  | done (value : α)
  | write (looped : Bool) (told : Write) (next : Course α)
  /-- A call in a session. -/
  | call (callee : Call) (s : Session) (next : Reply → Course α)

namespace Course

variable {α β : Type}

def bind : Course α → (α → Course β) → Course β
  | .done value, f => f value
  | .write looped told next, f => .write looped told (next.bind f)
  | .call callee s next, f => .call callee s fun reply ↦ (next reply).bind f

instance : Monad Course where
  pure := .done
  bind := Course.bind

/-- What comes out when every call is answered like this. -/
def exec (serve : Call → Session → Reply) : Course α → α
  | .done value => value
  | .write _ _ next => next.exec serve
  | .call callee s next => (next (serve callee s)).exec serve

theorem exec_bind (serve : Call → Session → Reply) (course : Course α) (f : α → Course β) :
    (course.bind f).exec serve = (f (course.exec serve)).exec serve := by
  induction course with
  | done value => rfl
  | write looped told next ih => exact ih
  | call callee s next ih => exact ih (serve callee s)

end Course

/-- A computation on a session that calls the engine and may fail. -/
abbrev Calling (ε : Type) := ExceptT ε (StateT Session Course)

namespace Calling

variable {ε ε' α β : Type}

/-- A computation that calls nothing. -/
def act (action : Acting ε α) : Calling ε α :=
  fun s ↦ .done (action.run s)

def call (callee : Call) : Calling ExecutionError Unit :=
  fun s ↦ .call callee s .done

/-- Tells that a task is about to write. -/
def write (site : Site) (told : Write) : Calling ε Unit :=
  fun s ↦ .write site.looped told (.done (.ok (), s))

/-- Gives the result of a computation instead of failing. -/
def attempt (x : Calling ε α) : Calling ε' (Except ε α) :=
  fun s ↦ Course.bind (x s) fun told ↦ .done (.ok told.1, told.2)

/-- Makes the errors of a computation causes of other errors. -/
def because (wrap : ε → ε') (x : Calling ε α) : Calling ε' α :=
  fun s ↦ Course.bind (x s) fun told ↦ .done (told.1.mapError wrap, told.2)

/-- Makes calls one after another. -/
def callAll (callee : Slot → Call) : List Slot → Calling ExecutionError Unit
  | [] => return ()
  | slot :: rest => do
    call (callee slot)
    callAll callee rest

/-! ## Answered calls -/

/-- The computation on a session that comes about when calls are answered like this. -/
def exec (serve : Call → Run) (x : Calling ε α) : Acting ε α :=
  fun s ↦ (x s).exec fun callee s ↦ (serve callee).run s

variable (serve : Call → Run)

@[simp] theorem exec_act (action : Acting ε α) : exec serve (act action) = action := rfl

@[simp] theorem exec_call (callee : Call) : exec serve (call callee) = serve callee := rfl

@[simp] theorem exec_bind (x : Calling ε α) (f : α → Calling ε β) :
    exec serve (x >>= f) = exec serve x >>= fun value ↦ exec serve (f value) := by
  funext s
  have hcourse : exec serve (x >>= f) s = (Course.bind (x s) fun told ↦
      ExceptT.bindCont f told.1 told.2).exec fun callee s ↦ (serve callee).run s := rfl
  have hrun : (exec serve x >>= fun value ↦ exec serve (f value)) s =
      ExceptT.bindCont (fun value ↦ exec serve (f value)) (exec serve x s).1
        (exec serve x s).2 := rfl
  rw [hcourse, hrun, Course.exec_bind, exec]
  rcases (x s).exec fun callee s ↦ (serve callee).run s with ⟨_ | _, _⟩ <;> rfl

@[simp] theorem exec_attempt (x : Calling ε α) :
    exec serve (attempt x : Calling ε' (Except ε α)) = Acting.attempt (exec serve x) := by
  funext s
  exact Course.exec_bind _ (x s) _

@[simp] theorem exec_because (wrap : ε → ε') (x : Calling ε α) :
    exec serve (because wrap x) = Acting.because wrap (exec serve x) := by
  funext s
  have hcourse := Course.exec_bind (fun callee s ↦ (serve callee).run s) (x s)
    fun told ↦ .done (told.1.mapError wrap, told.2)
  refine hcourse.trans ?_
  rw [Acting.because, ExceptT.run, exec]
  rcases (x s).exec fun callee s ↦ (serve callee).run s with ⟨_ | _, _⟩ <;> rfl

theorem exec_callAll (callee : Slot → Call) (slots : List Slot) :
    exec serve (callAll callee slots) = Engine.runAll (fun slot ↦ serve (callee slot)) slots := by
  induction slots with
  | nil => rfl
  | cons slot rest ih =>
    rw [callAll, exec_bind, exec_call, Engine.runAll, ih]

end Calling

end Playbook
