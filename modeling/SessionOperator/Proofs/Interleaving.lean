import Mathlib.Data.List.Forall2
import Mathlib.Data.List.Induction
import Mathlib.Data.List.Perm.Basic
import SessionOperator.Proofs.Conversation

/-!
# Programs side by side

Programs that run at the same time ask one question at a time between them, and nothing settles whose turn it is.
Whatever the order is, each of them holds a conversation of its own.

* `Program.Interleaved`: the calls of several programs in some order, and their results;
* `Program.Interleaved.conversations`: an interleaving falls into one conversation for each program;
* `Program.interleaved_forEach`, `Program.interleaved_forEach_reverse`: one program after the other, from the first or
  from the last one on, is one of the orders;
* `Program.interleaved_rounds`: and so is the first question of each and then the rest of each;
* `Program.Along`: calls that take a system from state to state;
* `Program.Interleaved.stages`: what each program keeps of itself and all others leave to it is there in the end.
-/

namespace SessionOperator

namespace Program

variable {I : Interface} {α β : Type} {p : Program I α} {before after : List (Program I α)}
  {calls more first : List I.Call} {a : α} {as : List α}

/-- Any of the programs that are left may ask next. -/
inductive Interleaved : List (Program I α) → List I.Call → List α → Prop
  | done (as : List α) : Interleaved (as.map .done) [] as
  | ask {before after : List (Program I α)} {q : I.Question} {next : I.Answer q → Program I α} {answer : I.Answer q}
      {calls : List I.Call} {as : List α} (rest : Interleaved (before ++ next answer :: after) calls as) :
      Interleaved (before ++ .ask q next :: after) (⟨q, answer⟩ :: calls) as

/-- What one of several programs has said, and its result. -/
structure Strand (I : Interface) (α : Type) where
  calls : List I.Call
  result : α

private theorem forall₂_append {γ δ : Type} {R : γ → δ → Prop} {xs ys : List γ} {zs : List δ}
    (h : List.Forall₂ R (xs ++ ys) zs) :
    ∃ us vs, zs = us ++ vs ∧ List.Forall₂ R xs us ∧ List.Forall₂ R ys vs := by
  induction xs generalizing zs with
  | nil => exact ⟨[], zs, rfl, .nil, h⟩
  | cons x xs ih =>
    obtain ⟨z, rest, hz, hrest, rfl⟩ := List.forall₂_cons_left_iff.1 h
    obtain ⟨us, vs, rfl, hus, hvs⟩ := ih hrest
    exact ⟨z :: us, vs, rfl, .cons hz hus, hvs⟩

/-- An interleaving falls into conversations: the calls are theirs, and those of each are in order. -/
theorem Interleaved.conversations {ps : List (Program I α)} (h : Interleaved ps calls as) :
    ∃ strands : List (Strand I α), List.Forall₂ (fun p s => p.Conversation s.calls s.result) ps strands ∧
      strands.map (·.result) = as ∧ calls.Perm (strands.flatMap (·.calls)) ∧
      ∀ s ∈ strands, s.calls.Sublist calls := by
  induction h with
  | done as =>
    refine ⟨as.map fun a => ⟨[], a⟩, ?_, ?_, ?_, ?_⟩
    · rw [List.forall₂_map_left_iff, List.forall₂_map_right_iff, List.forall₂_same]
      exact fun a _ => .done a
    · rw [List.map_map]
      exact List.map_id as
    · rw [List.flatMap_map, List.flatMap_eq_nil_iff.2 fun _ _ => rfl]
    · intro s hs
      obtain ⟨a, -, rfl⟩ := List.mem_map.1 hs
      exact List.nil_sublist _
  | @ask before after q next answer calls as rest ih =>
    obtain ⟨strands, hconversations, rfl, hperm, hsublist⟩ := ih
    obtain ⟨us, vs, rfl, hus, hvs⟩ := forall₂_append hconversations
    obtain ⟨s, ts, hs, hts, rfl⟩ := List.forall₂_cons_left_iff.1 hvs
    -- the call is the first one of the program that has asked
    refine ⟨us ++ ⟨⟨q, answer⟩ :: s.calls, s.result⟩ :: ts, ?_, ?_, ?_, ?_⟩
    · exact List.rel_append hus (.cons (.ask hs) hts)
    · simp only [List.map_append, List.map_cons]
    · simp only [List.flatMap_append, List.flatMap_cons] at hperm ⊢
      exact (hperm.cons _).trans List.perm_middle.symm
    · intro t ht
      rcases List.mem_append.1 ht with ht | ht
      · exact (hsublist t (List.mem_append_left _ ht)).cons _
      · rcases List.mem_cons.1 ht with rfl | ht
        · exact (hsublist s (List.mem_append_right _ List.mem_cons_self)).cons_cons _
        · exact (hsublist t (List.mem_append_right _ (List.mem_cons_of_mem _ ht))).cons _

/-! ### Orders -/

/-- One of the programs may say all that it has to say at once. -/
theorem Conversation.interleaved (h : p.Conversation first a)
    (rest : Interleaved (before ++ .done a :: after) more as) : Interleaved (before ++ p :: after) (first ++ more) as := by
  induction h with
  | done a => exact rest
  | ask _ ih => exact .ask (ih rest)

/-- Or it may ask one question and leave the rest for later. -/
theorem Interleaved.of_first {r : Program I α} (h : p.first.Conversation first r)
    (rest : Interleaved (before ++ r :: after) more as) : Interleaved (before ++ p :: after) (first ++ more) as := by
  cases p with
  | done a =>
    obtain ⟨rfl, rfl⟩ := conversation_done.1 h
    exact rest
  | ask q next =>
    obtain ⟨answer, others, rfl, hnext⟩ := conversation_ask.1 h
    obtain ⟨rfl, rfl⟩ := conversation_done.1 hnext
    exact .ask rest

variable {xs : List β} {body : β → Program I α} {bs : List α}

theorem conversation_forEach_cons {x : β} :
    (forEach (x :: xs) body).Conversation calls bs ↔
      ∃ first b rest others, calls = first ++ rest ∧ bs = b :: others ∧ (body x).Conversation first b ∧
        (forEach xs body).Conversation rest others := by
  simp only [forEach, conversation_bind, conversation_done]
  constructor
  · rintro ⟨first, b, _, rfl, hfirst, rest, others, _, rfl, hrest, rfl, rfl⟩
    exact ⟨first, b, rest, others, by rw [List.append_nil], rfl, hfirst, hrest⟩
  · rintro ⟨first, b, rest, others, rfl, rfl, hfirst, hrest⟩
    exact ⟨first, b, rest, rfl, hfirst, rest, others, [], (List.append_nil rest).symm, hrest, rfl, rfl⟩

/-- One program after the other, once some are done. -/
private theorem interleaved_forEach_append (done : List α) (h : (forEach xs body).Conversation calls bs) :
    Interleaved (done.map .done ++ xs.map body) calls (done ++ bs) := by
  induction xs generalizing done calls bs with
  | nil =>
    obtain ⟨rfl, rfl⟩ := conversation_done.1 h
    rw [List.map_nil, List.append_nil, List.append_nil]
    exact .done done
  | cons x xs ih =>
    obtain ⟨first, b, rest, others, rfl, rfl, hfirst, hrest⟩ := conversation_forEach_cons.1 h
    refine hfirst.interleaved ?_
    have hdone := ih (done ++ [b]) hrest
    rw [List.map_append, List.append_assoc, List.append_assoc] at hdone
    exact hdone

theorem interleaved_forEach (h : (forEach xs body).Conversation calls bs) : Interleaved (xs.map body) calls bs :=
  interleaved_forEach_append [] h

/-- One program after the other from the last one on, before those that are done. -/
private theorem interleaved_forEach_reverse_append (done : List α)
    (h : (forEach xs.reverse body).Conversation calls bs) :
    Interleaved (xs.map body ++ done.map .done) calls (bs.reverse ++ done) := by
  induction xs using List.reverseRecOn generalizing done calls bs with
  | nil =>
    obtain ⟨rfl, rfl⟩ := conversation_done.1 h
    exact .done done
  | append_singleton xs x ih =>
    rw [List.reverse_append, List.reverse_singleton, List.singleton_append] at h
    obtain ⟨first, b, rest, others, rfl, rfl, hfirst, hrest⟩ := conversation_forEach_cons.1 h
    rw [List.map_append, List.append_assoc, List.reverse_cons, List.append_assoc]
    exact hfirst.interleaved (ih (b :: done) hrest)

theorem interleaved_forEach_reverse (h : (forEach xs.reverse body).Conversation calls bs) :
    Interleaved (xs.map body) calls bs.reverse := by
  have hlast := interleaved_forEach_reverse_append [] h
  rwa [List.map_nil, List.append_nil, List.append_nil] at hlast

/-- The first questions of some programs, once those of others have been asked. -/
private theorem interleaved_firsts {rests : List (Program I α)} (started : List (Program I α))
    (h : (forEach xs fun x => (body x).first).Conversation calls rests)
    (rest : Interleaved (started ++ rests) more as) : Interleaved (started ++ xs.map body) (calls ++ more) as := by
  induction xs generalizing started calls rests with
  | nil =>
    obtain ⟨rfl, rfl⟩ := conversation_done.1 h
    exact rest
  | cons x xs ih =>
    obtain ⟨first, r, others, rests, rfl, rfl, hfirst, hothers⟩ := conversation_forEach_cons.1 h
    rw [List.append_assoc]
    refine .of_first hfirst ?_
    have hstarted := ih (started ++ [r]) hothers (by rwa [List.append_assoc])
    rw [List.append_assoc] at hstarted
    exact hstarted

theorem interleaved_rounds
    (h : ((forEach xs fun x => (body x).first).bind fun rests => forEach rests id).Conversation calls bs) :
    Interleaved (xs.map body) calls bs := by
  obtain ⟨first, rests, rest, rfl, hfirst, hrest⟩ := conversation_bind.1 h
  have hlast := interleaved_forEach hrest
  rw [List.map_id] at hlast
  exact interleaved_firsts [] hfirst hlast

/-! ### Programs that leave each other alone -/

section

variable {δ σ : Type} {ds : List δ} {ps : List (Program I α)} {s s' : σ}

/-- The calls take some system from one state to another, each by a step. -/
def Along (step : σ → I.Call → σ → Prop) : List I.Call → σ → σ → Prop
  | [], s, s' => s' = s
  | call :: calls, s, s' => ∃ t, step s call t ∧ Along step calls t s'

/-- What a handler does at a call. -/
def answeredStep (handler : Handler I σ) (s : σ) (call : I.Call) (t : σ) : Prop :=
  call.answer = (handler call.question s).1 ∧ t = (handler call.question s).2

theorem Answered.along {handler : Handler I σ} (h : Answered handler calls s s') :
    Along (answeredStep handler) calls s s' := by
  induction calls generalizing s with
  | nil => exact h
  | cons call calls ih => exact ⟨_, ⟨h.1, rfl⟩, ih h.2⟩

/-- Each program goes through stages of its own.  When the questions of a program lead it from stage to stage and leave
the stages of all others as they are, each of them ends in its last stage, in whatever order they ask. -/
theorem Interleaved.stages (step : σ → I.Call → σ → Prop) (inv : σ → Prop) (stage : δ → Program I α → σ → Prop)
    (apart : δ → δ → Prop) (h : Interleaved ps calls as) (halong : Along step calls s s') (hapart : ds.Pairwise apart)
    (hsymm : ∀ d d', apart d d' → apart d' d)
    (own : ∀ d ∈ ds, ∀ q next answer s t, inv s → stage d (.ask q next) s → step s ⟨q, answer⟩ t →
      inv t ∧ stage d (next answer) t)
    (other : ∀ d d', apart d d' → ∀ q next answer p s t, inv s → stage d (.ask q next) s → step s ⟨q, answer⟩ t →
      stage d' p s → stage d' p t)
    (hinv : inv s) (hstages : List.Forall₂ (fun d p => stage d p s) ds ps) :
    inv s' ∧ List.Forall₂ (fun d a => stage d (.done a) s') ds as := by
  induction h generalizing s with
  | done as =>
    obtain rfl : s' = s := halong
    exact ⟨hinv, List.forall₂_map_right_iff.1 hstages⟩
  | @ask before after q next answer calls as rest ih =>
    obtain ⟨t, hstep, halong⟩ := halong
    obtain ⟨earlier, _, rfl, hearlier, hothers⟩ := forall₂_append hstages.flip
    obtain ⟨d, later, hd, hlater, rfl⟩ := List.forall₂_cons_left_iff.1 hothers
    obtain ⟨-, hafter, hacross⟩ := List.pairwise_append.1 hapart
    -- the others stay where they are
    have hleft : ∀ {ps ds'}, List.Forall₂ (fun p d => stage d p s) ps ds' → (∀ d' ∈ ds', apart d d') →
        List.Forall₂ (fun d p => stage d p t) ds' ps := fun hps hds' =>
      ((List.forall₂_and_left _ _).2 ⟨hds', hps.flip⟩).imp fun d' p h =>
        other d d' h.1 q next answer p s t hinv hd hstep h.2
    have hmem : d ∈ earlier ++ d :: later := List.mem_append_right _ List.mem_cons_self
    obtain ⟨hinv', hd'⟩ := own d hmem q next answer s t hinv hd hstep
    refine ih halong hinv' (List.rel_append (hleft hearlier fun d' hd' => ?_) (.cons hd' (hleft hlater ?_)))
    · exact hsymm d' d (hacross d' hd' d List.mem_cons_self)
    · exact (List.pairwise_cons.1 hafter).1

/-- Programs whose stages do not depend on the state cannot get in each other's way. -/
theorem Interleaved.stages_alone (step : σ → I.Call → σ → Prop) (inv : σ → Prop) (stage : δ → Program I α → Prop)
    (h : Interleaved ps calls as) (halong : Along step calls s s')
    (own : ∀ d ∈ ds, ∀ q next answer s t, inv s → stage d (.ask q next) → step s ⟨q, answer⟩ t →
      inv t ∧ stage d (next answer))
    (hinv : inv s) (hstages : List.Forall₂ stage ds ps) :
    inv s' ∧ List.Forall₂ (fun d a => stage d (.done a)) ds as :=
  h.stages step inv (fun d p _ => stage d p) (fun _ _ => True) halong (List.pairwise_of_forall fun _ _ => trivial)
    (fun _ _ _ => trivial) own (fun _ _ _ _ _ _ _ _ _ _ _ _ hstage => hstage) hinv hstages

end

end Program

end SessionOperator
