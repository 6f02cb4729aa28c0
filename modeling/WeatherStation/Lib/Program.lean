import Mathlib.Logic.Function.Iterate

/-! Programs whose atomic statements can be interrupted.  A program is either
finished or about to execute one labelled statement; a statement updates the
shared state and chooses the rest of the program from the state it found. -/
namespace WeatherStation.Lib

inductive Program (L σ α : Type) where
  | done : α → Program L σ α
  | step : L → (σ → σ) → (σ → Program L σ α) → Program L σ α

namespace Program

variable {L σ α β : Type}

def bind (program : Program L σ α) (next : α → Program L σ β) : Program L σ β :=
  match program with
  | .done a => next a
  | .step label update rest => .step label update fun s => (rest s).bind next

instance : Monad (Program L σ) where
  pure := .done
  bind := Program.bind

/-- One atomic assignment at a program point. -/
def assignAt (label : L) (update : σ → σ) : Program L σ Unit :=
  .step label update fun _ => .done ()

/-- One atomic read at a program point. -/
def readAt (label : L) (read : σ → α) : Program L σ α :=
  .step label id fun s => .done (read s)

section
variable [Inhabited L]

def assign (update : σ → σ) : Program L σ Unit := assignAt default update

def read (read : σ → α) : Program L σ α := readAt default read

end

/-- A loop that counts to `n`. -/
def repeatTimes : Nat → Program L σ Unit → Program L σ Unit
  | 0, _ => .done ()
  | n + 1, body => body >>= fun _ => repeatTimes n body

def run : Program L σ α → σ → α × σ
  | .done a, s => (a, s)
  | .step _ update rest, s => (rest s).run (update s)

/-- The final state of an uninterrupted execution. -/
def exec (program : Program L σ α) (s : σ) : σ := (program.run s).2

theorem run_bind' (program : Program L σ α) (next : α → Program L σ β) (s : σ) :
    (program.bind next).run s = (next (program.run s).1).run (program.run s).2 := by
  induction program generalizing s with
  | done a => rfl
  | step label update rest ih => exact ih s (update s)

@[simp] theorem run_bind (program : Program L σ α) (next : α → Program L σ β) (s : σ) :
    (program >>= next).run s = (next (program.run s).1).run (program.run s).2 :=
  run_bind' program next s

@[simp] theorem run_pure (a : α) (s : σ) : (pure a : Program L σ α).run s = (a, s) := rfl

@[simp] theorem run_assignAt (label : L) (update : σ → σ) (s : σ) :
    (assignAt label update).run s = ((), update s) := rfl

@[simp] theorem run_readAt (label : L) (read : σ → α) (s : σ) :
    (readAt label read).run s = (read s, s) := rfl

@[simp] theorem run_assign [Inhabited L] (update : σ → σ) (s : σ) :
    (assign update : Program L σ Unit).run s = ((), update s) := rfl

@[simp] theorem run_read [Inhabited L] (read : σ → α) (s : σ) :
    (Program.read read : Program L σ α).run s = (read s, s) := rfl

@[simp] theorem run_ite (c : Prop) [Decidable c] (left right : Program L σ α) (s : σ) :
    (if c then left else right).run s = if c then left.run s else right.run s := by
  split <;> rfl

/-- Execute the next statement; a finished program stays as it is. -/
def next : Program L σ α × σ → Program L σ α × σ
  | (.done a, s) => (.done a, s)
  | (.step _ update rest, s) => (rest s, update s)

end Program
end WeatherStation.Lib
