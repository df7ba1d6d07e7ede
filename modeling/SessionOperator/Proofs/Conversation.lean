import SessionOperator.Program

/-!
# What may be said while a program runs

A program settles what is asked next, never what the answer is.  Its conversations are the lists of calls, each with
some answer, that lead it to a result: a statement about all conversations of a program holds against every handler.

* `Program.Conversation`: the calls and the result of one run against anything;
* `Program.conversation_bind`: a conversation of a sequence falls into two;
* `Program.AsksOnly`: every question on every path is of some kind;
* `Program.conversation_run`: what is said to a handler is a conversation;
* `Program.Answered`: calls as a handler answers them.
-/

namespace SessionOperator

/-- A question together with the answer that it got. -/
structure Interface.Call (I : Interface) where
  question : I.Question
  answer : I.Answer question

namespace Program

variable {I : Interface} {α β σ : Type}

inductive Conversation : Program I α → List I.Call → α → Prop
  | done (a : α) : Conversation (.done a) [] a
  | ask {q : I.Question} {next : I.Answer q → Program I α} {answer : I.Answer q} {calls : List I.Call} {a : α}
      (rest : Conversation (next answer) calls a) : Conversation (.ask q next) (⟨q, answer⟩ :: calls) a

theorem conversation_done {a b : α} {calls : List I.Call} :
    Conversation (done a) calls b ↔ calls = [] ∧ b = a := by
  constructor
  · rintro ⟨⟩
    exact ⟨rfl, rfl⟩
  · rintro ⟨rfl, rfl⟩
    exact .done b

theorem conversation_ask {q : I.Question} {next : I.Answer q → Program I α} {calls : List I.Call} {a : α} :
    Conversation (ask q next) calls a ↔
      ∃ answer rest, calls = ⟨q, answer⟩ :: rest ∧ Conversation (next answer) rest a := by
  constructor
  · intro h
    cases h with
    | ask rest => exact ⟨_, _, rfl, rest⟩
  · rintro ⟨answer, rest, rfl, h⟩
    exact .ask h

theorem conversation_bind {p : Program I α} {f : α → Program I β} {calls : List I.Call} {b : β} :
    Conversation (p.bind f) calls b ↔
      ∃ first a rest, calls = first ++ rest ∧ p.Conversation first a ∧ (f a).Conversation rest b := by
  induction p generalizing calls with
  | done a =>
    simp only [done_bind, conversation_done]
    constructor
    · intro h
      exact ⟨[], a, calls, rfl, ⟨rfl, rfl⟩, h⟩
    · rintro ⟨first, a', rest, rfl, ⟨rfl, rfl⟩, h⟩
      exact h
  | ask q next ih =>
    simp only [ask_bind, conversation_ask]
    constructor
    · rintro ⟨answer, rest, rfl, h⟩
      obtain ⟨first, a, rest', rfl, hfirst, hrest⟩ := (ih answer).1 h
      exact ⟨⟨q, answer⟩ :: first, a, rest', rfl, ⟨answer, first, rfl, hfirst⟩, hrest⟩
    · rintro ⟨first, a, rest, rfl, ⟨answer, first', rfl, hfirst⟩, hrest⟩
      exact ⟨answer, first' ++ rest, rfl, (ih answer).2 ⟨first', a, rest, rfl, hfirst, hrest⟩⟩

/-! ### Restricted questions -/

/-- Whatever the answers are, only questions of one kind are asked. -/
def AsksOnly (kind : I.Question → Prop) : Program I α → Prop
  | done _ => True
  | ask q next => kind q ∧ ∀ answer, (next answer).AsksOnly kind

variable {kind : I.Question → Prop}

theorem AsksOnly.bind {p : Program I α} {f : α → Program I β} (hp : p.AsksOnly kind) (hf : ∀ a, (f a).AsksOnly kind) :
    (p.bind f).AsksOnly kind := by
  induction p with
  | done a => exact hf a
  | ask q next ih => exact ⟨hp.1, fun answer => ih answer (hp.2 answer)⟩

theorem AsksOnly.forEach {xs : List β} {body : β → Program I α} (h : ∀ x, (body x).AsksOnly kind) :
    (forEach xs body).AsksOnly kind := by
  induction xs with
  | nil => trivial
  | cons x xs ih => exact (h x).bind fun b => ih.bind fun bs => trivial

theorem Conversation.question_kind {p : Program I α} {calls : List I.Call} {a : α} (h : p.Conversation calls a)
    (hp : p.AsksOnly kind) : ∀ call ∈ calls, kind call.question := by
  induction h with
  | done a => simp
  | ask rest ih =>
    intro call hcall
    rcases List.mem_cons.1 hcall with rfl | hcall
    · exact hp.1
    · exact ih (hp.2 _) call hcall

/-! ### Handlers -/

/-- The calls of a program under a handler, in order. -/
def calls (handler : Handler I σ) : Program I α → σ → List I.Call
  | done _, _ => []
  | ask q next, s => ⟨q, (handler q s).1⟩ :: (next (handler q s).1).calls handler (handler q s).2

theorem calls_bind (handler : Handler I σ) (p : Program I α) (f : α → Program I β) (s : σ) :
    (p.bind f).calls handler s = p.calls handler s ++ (f (p.run handler s).1).calls handler (p.run handler s).2 := by
  induction p generalizing s with
  | done a => rfl
  | ask q next ih => exact congrArg _ (ih _ _)

theorem conversation_run (handler : Handler I σ) (p : Program I α) (s : σ) :
    p.Conversation (p.calls handler s) (p.run handler s).1 := by
  induction p generalizing s with
  | done a => exact .done a
  | ask q next ih => exact .ask (ih _ _)

/-- The calls are answered by a handler, one after the other, and leave it in the second state. -/
def Answered (handler : Handler I σ) : List I.Call → σ → σ → Prop
  | [], s, s' => s' = s
  | call :: calls, s, s' =>
    call.answer = (handler call.question s).1 ∧ Answered handler calls (handler call.question s).2 s'

theorem answered_run (handler : Handler I σ) (p : Program I α) (s : σ) :
    Answered handler (p.calls handler s) s (p.run handler s).2 := by
  induction p generalizing s with
  | done a => rfl
  | ask q next ih => exact ⟨rfl, ih _ _⟩

/-- Answers lead a program to one result only. -/
theorem Conversation.run_eq {handler : Handler I σ} {p : Program I α} {calls : List I.Call} {a : α} {s s' : σ}
    (h : p.Conversation calls a) (hanswered : Answered handler calls s s') :
    p.calls handler s = calls ∧ p.run handler s = (a, s') := by
  induction h generalizing s with
  | done a => exact ⟨rfl, congrArg _ hanswered.symm⟩
  | @ask q next answer calls a rest ih =>
    obtain ⟨hanswer, hrest⟩ := hanswered
    have hfirst : answer = (handler q s).1 := hanswer
    subst hfirst
    obtain ⟨hcalls, hrun⟩ := ih hrest
    exact ⟨congrArg _ hcalls, hrun⟩

end Program

end SessionOperator
