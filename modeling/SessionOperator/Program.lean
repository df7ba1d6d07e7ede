/-!
# Programs that ask

A program over an interface either is done or asks one thing and goes on with the answer.  What answers it is not part
of the program: the same program runs against any handler.

* `Program.bind`: one program after another;
* `Program.run`: the result of a program under a handler with a state, and the state that is left;
* `Program.asked`: the questions that a program asks on the way;
* `Program.run_bind`, `Program.asked_bind`: a sequence runs and asks as its parts do;
* `Program.interpret`: a program over another interface, each question answered by a program;
* `Program.first`: the first question of a program, which leaves the rest of it for later.
-/

namespace SessionOperator

/-- What may be asked, and the type of the answer to each question. -/
structure Interface where
  Question : Type
  Answer : Question → Type

inductive Program (I : Interface) (α : Type) where
  | done (value : α)
  | ask (question : I.Question) (next : I.Answer question → Program I α)

/-- Answers questions and changes its state by doing so. -/
abbrev Handler (I : Interface) (σ : Type) := (question : I.Question) → σ → I.Answer question × σ

namespace Program

variable {I J : Interface} {α β γ σ : Type}

def bind : Program I α → (α → Program I β) → Program I β
  | done a, f => f a
  | ask q next, f => ask q fun answer => (next answer).bind f

instance : Monad (Program I) where
  pure := done
  bind := bind

def run (handler : Handler I σ) : Program I α → σ → α × σ
  | done a, s => (a, s)
  | ask q next, s =>
    let (answer, s) := handler q s
    (next answer).run handler s

/-- The questions that a program asks under a handler, in order. -/
def asked (handler : Handler I σ) : Program I α → σ → List I.Question
  | done _, _ => []
  | ask q next, s =>
    let (answer, s) := handler q s
    q :: (next answer).asked handler s

def interpret (meaning : (question : I.Question) → Program J (I.Answer question)) : Program I α → Program J α
  | done a => done a
  | ask q next => (meaning q).bind fun answer => (next answer).interpret meaning

/-- Asks the first question only; what is left to do is the result. -/
def first : Program I α → Program I (Program I α)
  | done a => done (done a)
  | ask q next => ask q fun answer => done (next answer)

@[simp]
theorem pure_eq (a : α) : (pure a : Program I α) = done a := rfl

@[simp]
theorem bind_eq (p : Program I α) (f : α → Program I β) : p >>= f = p.bind f := rfl

@[simp]
theorem done_bind (a : α) (f : α → Program I β) : (done a).bind f = f a := rfl

@[simp]
theorem ask_bind (q : I.Question) (next : I.Answer q → Program I α) (f : α → Program I β) :
    (ask q next).bind f = ask q fun answer => (next answer).bind f := rfl

@[simp]
theorem bind_done (p : Program I α) : p.bind done = p := by
  induction p with
  | done a => rfl
  | ask q next ih => simp [bind, ih]

theorem bind_assoc (p : Program I α) (f : α → Program I β) (g : β → Program I γ) :
    (p.bind f).bind g = p.bind fun a => (f a).bind g := by
  induction p with
  | done a => rfl
  | ask q next ih => simp [bind, ih]

@[simp]
theorem run_done (h : Handler I σ) (a : α) (s : σ) : (done a : Program I α).run h s = (a, s) := rfl

@[simp]
theorem run_ask (h : Handler I σ) (q : I.Question) (next : I.Answer q → Program I α) (s : σ) :
    (ask q next).run h s = (next (h q s).1).run h (h q s).2 := rfl

/-- The first question and then the rest is the whole. -/
theorem first_bind (p : Program I α) (f : α → Program I β) : (p.first.bind fun rest => rest.bind f) = p.bind f := by
  cases p with
  | done a => rfl
  | ask q next => rfl

theorem run_bind (h : Handler I σ) (p : Program I α) (f : α → Program I β) (s : σ) :
    (p.bind f).run h s = (f (p.run h s).1).run h (p.run h s).2 := by
  induction p generalizing s with
  | done a => rfl
  | ask q next ih => simp [ih]

@[simp]
theorem asked_done (h : Handler I σ) (a : α) (s : σ) : (done a : Program I α).asked h s = [] := rfl

@[simp]
theorem asked_ask (h : Handler I σ) (q : I.Question) (next : I.Answer q → Program I α) (s : σ) :
    (ask q next).asked h s = q :: (next (h q s).1).asked h (h q s).2 := rfl

theorem asked_bind (h : Handler I σ) (p : Program I α) (f : α → Program I β) (s : σ) :
    (p.bind f).asked h s = p.asked h s ++ (f (p.run h s).1).asked h (p.run h s).2 := by
  induction p generalizing s with
  | done a => rfl
  | ask q next ih => simp [ih]

/-- Runs one program for each element, in order. -/
def forEach (xs : List α) (body : α → Program I β) : Program I (List β) :=
  match xs with
  | [] => done []
  | x :: rest => (body x).bind fun b => (forEach rest body).bind fun bs => done (b :: bs)

end Program

end SessionOperator
