import Propositional.Token.Session

/-!
# Streams do not disturb each other

The streams of a session share a mark, and every one of them writes it. Still no answer depends on
it: a report of a foreign character takes its index from the mark, but only right after the stream
that fails has put its own place there.

1. `Reader.advance_mark`: what comes of advancing a reader does not depend on the mark.
2. `Streams.serve_of_live_eq`: the answer to a request about a name depends on the stream under this
   name alone, and so does the stream that is left there.
3. `Streams.live_serve_of_not_about`: a request that is not about a name leaves its stream alone.

Hence `Streams.serveAll_isolated`: the answers about a name are those of the requests about it by
themselves, a pull answers for its text and cursor, and a stream that has stopped stays so until it
is started again.
-/

namespace Propositional

theorem getElem?_answers {σ ρ α : Type} {answers : σ → List ρ → List α} {answer : σ → ρ → α}
    {next : σ → ρ → σ}
    (hcons : ∀ s r rs, answers s (r :: rs) = answer s r :: answers (next s r) rs) (s : σ)
    {rs : List ρ} {i : Nat} {r : ρ} (hi : rs[i]? = some r) :
    (answers s rs)[i]? = some (answer ((rs.take i).foldl next s) r) := by
  induction rs generalizing s i with
  | nil => cases hi
  | cons q rs ih =>
    rw [hcons]
    cases i with
    | zero =>
      cases hi
      rfl
    | succ i => exact ih (next s q) hi

theorem Reader.advance_mark (r : Reader) (m m' : Mark) :
    (r.advance m).result = (r.advance m').result ∧
      (r.advance m).reader = (r.advance m').reader := by
  unfold advance
  cases r.stream.next <;> exact ⟨rfl, rfl⟩

namespace Streams

/-! ## Requests about a name -/

/-- A request is about a name if it starts, advances or closes the stream with this name. -/
def Request.isAbout (name : String) : Request → Bool
  | .start other _ _ | .advance other | .close other => other = name
  | .pull _ _ => false

/-- The answers to the requests about a name. -/
def answersAbout (name : String) (rs : List Request) (answers : List Answer) : List Answer :=
  ((rs.zip answers).filter fun p => p.1.isAbout name).map Prod.snd

section Step

variable {streams streams' : Streams} {name : String} {r : Request}

theorem serve_of_live_eq (hlive : streams.live name = streams'.live name)
    (hr : r.isAbout name = true) :
    (streams.serve r).1 = (streams'.serve r).1 ∧
      (streams.serve r).2.live name = (streams'.serve r).2.live name := by
  cases r with
  | start other text cursor =>
    obtain rfl : other = name := by simpa [Request.isAbout] using hr
    exact ⟨rfl, by simp only [serve, live_put_self]⟩
  | close other =>
    obtain rfl : other = name := by simpa [Request.isAbout] using hr
    exact ⟨rfl, by simp only [serve, live_put_self]⟩
  | pull text cursor => cases hr
  | advance other =>
    obtain rfl : other = name := by simpa [Request.isAbout] using hr
    cases hreader : streams'.live other with
    | none =>
      rw [serve_advance_of_none (hlive.trans hreader), serve_advance_of_none hreader]
      exact ⟨rfl, hlive⟩
    | some reader =>
      obtain ⟨hresult, hleft⟩ := reader.advance_mark streams.mark streams'.mark
      rw [serve_advance_of_some (hlive.trans hreader), serve_advance_of_some hreader, hresult,
        hleft]
      exact ⟨rfl, by simp only [live_put_self]⟩

theorem live_serve_of_not_about (hr : r.isAbout name = false) :
    (streams.serve r).2.live name = streams.live name := by
  cases r with
  | start other text cursor =>
    exact live_put_of_ne fun h => by simp [Request.isAbout, h] at hr
  | close other => exact live_put_of_ne fun h => by simp [Request.isAbout, h] at hr
  | pull text cursor => rfl
  | advance other =>
    have hne : name ≠ other := fun h => by simp [Request.isAbout, h] at hr
    cases hreader : streams.live other with
    | none => rw [serve_advance_of_none hreader]
    | some reader =>
      rw [serve_advance_of_some hreader]
      exact live_put_of_ne hne

end Step

theorem answersAbout_serveAll {streams streams' : Streams} {name : String}
    (hlive : streams.live name = streams'.live name) (rs : List Request) :
    answersAbout name rs (streams.serveAll rs) =
      streams'.serveAll (rs.filter (·.isAbout name)) := by
  induction rs generalizing streams streams' with
  | nil => rfl
  | cons r rs ih =>
    cases hr : r.isAbout name with
    | false =>
      have hlive' : (streams.serve r).2.live name = streams'.live name :=
        (live_serve_of_not_about hr).trans hlive
      rw [List.filter_cons_of_neg (by simp [hr]), ← ih hlive']
      simp [answersAbout, serveAll, hr]
    | true =>
      obtain ⟨hanswer, hlive'⟩ := serve_of_live_eq hlive hr
      rw [List.filter_cons_of_pos hr, serveAll, serveAll, ← hanswer, ← ih hlive']
      simp [answersAbout, hr]

/-! ## The session before a request -/

/-- The session after a sequence of requests. -/
def after (streams : Streams) (rs : List Request) : Streams :=
  rs.foldl (fun s r => (s.serve r).2) streams

theorem after_take_succ (streams : Streams) {rs : List Request} {i : Nat} {r : Request}
    (hi : rs[i]? = some r) :
    streams.after (rs.take (i + 1)) = ((streams.after (rs.take i)).serve r).2 := by
  rw [List.take_add_one, hi, after, List.foldl_append]
  rfl

theorem serveAll_getElem? (streams : Streams) {rs : List Request} {i : Nat} {r : Request}
    (hi : rs[i]? = some r) :
    (streams.serveAll rs)[i]? = some ((streams.after (rs.take i)).serve r).1 := by
  have hcons : ∀ (s : Streams) r rs,
      s.serveAll (r :: rs) = (s.serve r).1 :: (s.serve r).2.serveAll rs := fun _ _ _ => rfl
  exact getElem?_answers hcons streams hi

/-! ## Streams that have stopped -/

/-- The answer to a request tells that the stream with a name has stopped: it was closed, it has
ended, or it has met a foreign character. -/
inductive Stops (name : String) : Request → Answer → Prop
  | closed : Stops name (.close name) .closed
  | ended : Stops name (.advance name) (.advanced (.ok none))
  | failed (e : ForeignCharacter) : Stops name (.advance name) (.advanced (.error e))

/-- A request starts the stream with a name. -/
def Request.isStart (name : String) : Request → Bool
  | .start other _ _ => other = name
  | _ => false

section Stopping

variable {streams : Streams} {name : String} {r : Request}

theorem reader_of_advance {reader : Reader} {m : Mark}
    (h : ∀ t, (reader.advance m).result ≠ .ok (some t)) : (reader.advance m).reader = none := by
  revert h
  unfold Reader.advance
  cases reader.stream.next with
  | token t => exact fun h => absurd rfl (h t)
  | finished => exact fun _ => rfl
  | foreign e => exact fun _ => rfl

theorem live_of_advance (h : ∀ t, (streams.serve (.advance name)).1 ≠ .advanced (.ok (some t))) :
    (streams.serve (.advance name)).2.live name = none := by
  cases hreader : streams.live name with
  | none => rwa [serve_advance_of_none hreader]
  | some reader =>
    rw [serve_advance_of_some hreader] at h ⊢
    rw [live_put_self]
    exact reader_of_advance fun t ht => h t (congrArg Answer.advanced ht)

theorem Stops.live_eq_none (h : Stops name r (streams.serve r).1) :
    (streams.serve r).2.live name = none := by
  generalize ha : (streams.serve r).1 = a at h
  cases h with
  | closed => exact live_put_self _ _ _ _
  | ended => exact live_of_advance fun t ht => by cases ha.symm.trans ht
  | failed e => exact live_of_advance fun t ht => by cases ha.symm.trans ht

theorem live_serve_of_none (hlive : streams.live name = none) (hr : r.isStart name = false) :
    (streams.serve r).2.live name = none := by
  cases habout : r.isAbout name with
  | false => rwa [live_serve_of_not_about habout]
  | true =>
    cases r with
    | start other text cursor => cases habout.symm.trans hr
    | close other =>
      obtain rfl : other = name := by simpa [Request.isAbout] using habout
      exact live_put_self _ _ _ _
    | pull text cursor => cases habout
    | advance other =>
      obtain rfl : other = name := by simpa [Request.isAbout] using habout
      rwa [serve_advance_of_none hlive]

theorem live_after_of_none {rs : List Request} {i j : Nat} (hij : i < j) (hj : j ≤ rs.length)
    (hlive : (streams.after (rs.take (i + 1))).live name = none)
    (hquiet : ∀ k q, i < k → k < j → rs[k]? = some q → q.isStart name = false) :
    (streams.after (rs.take j)).live name = none := by
  induction hij with
  | refl => exact hlive
  | @step k hk ih =>
    have hget : rs[k]? = some rs[k] := List.getElem?_eq_getElem hj
    rw [after_take_succ streams hget]
    refine live_serve_of_none (ih (by omega) fun l q hl hlk => ?_) ?_
    · exact hquiet l q hl (by omega)
    · exact hquiet k _ hk (by omega) hget

end Stopping

/-! ## Isolation -/

/-- Streams do not disturb each other. Whatever the requests to a session are, the answers about a
name are those that the requests about it get by themselves; a pull answers for its text and cursor;
and a stream that has been closed, has ended or has failed delivers no token until it is started
again. -/
theorem serveAll_isolated :
    (∀ (name : String) (rs : List Request),
      answersAbout name rs (empty.serveAll rs) = empty.serveAll (rs.filter (·.isAbout name))) ∧
    (∀ (rs : List Request) (i : Nat) (text : Text) (cursor : Int),
      rs[i]? = some (.pull text cursor) →
        (empty.serveAll rs)[i]? = some (.pulled (nextToken text cursor))) ∧
    ∀ (name : String) (rs : List Request) (i j : Nat) (r : Request) (a : Answer), i < j →
      rs[i]? = some r → (empty.serveAll rs)[i]? = some a → Stops name r a →
      (∀ k q, i < k → k < j → rs[k]? = some q → q.isStart name = false) →
      rs[j]? = some (.advance name) →
        (empty.serveAll rs)[j]? = some (.advanced (.ok none)) := by
  refine ⟨fun name rs => answersAbout_serveAll rfl rs, fun rs i text cursor hi => ?_, ?_⟩
  · rw [serveAll_getElem? empty hi, serve, pullMarking_fst]
  · intro name rs i j r a hij hi ha hstops hquiet hj
    rw [serveAll_getElem? empty hi, Option.some.injEq] at ha
    subst ha
    have hlive : (empty.after (rs.take (i + 1))).live name = none := by
      rw [after_take_succ empty hi]
      exact hstops.live_eq_none
    have hlength : j < rs.length := (List.getElem?_eq_some_iff.1 hj).1
    rw [serveAll_getElem? empty hj,
      serve_advance_of_none (live_after_of_none hij (Nat.le_of_lt hlength) hlive hquiet)]

/-- Two streams and a pull, all of which meet a foreign character. -/
def Request.threeFailures : List Request :=
  [.start "a" "x?".toList 0, .start "b" "y!".toList 2, .advance "a", .advance "a",
    .start "b" "?".toList 0, .advance "b", .pull "y ?".toList 1, .advance "a"]

/-- Each of them reports its own place, and the stream that failed first delivers no more. -/
theorem serveAll_threeFailures :
    answersAbout "b" Request.threeFailures (empty.serveAll Request.threeFailures) =
        [.started, .started, .advanced (.error ⟨'?', 0⟩)] ∧
      (empty.serveAll Request.threeFailures)[6]? = some (.pulled (.error ⟨'?', 2⟩)) ∧
      (empty.serveAll Request.threeFailures)[7]? = some (.advanced (.ok none)) := by
  obtain ⟨habout, hpull, hstopped⟩ := serveAll_isolated
  refine ⟨habout "b" Request.threeFailures,
    hpull Request.threeFailures 6 "y ?".toList 1 rfl, ?_⟩
  have hfailed : (empty.serveAll Request.threeFailures)[3]? =
      some (.advanced (.error ⟨'?', 1⟩)) := rfl
  refine hstopped "a" _ 3 7 _ _ (by decide) rfl hfailed (.failed _) ?_ rfl
  intro k q hk hk' hq
  obtain rfl | rfl | rfl : k = 4 ∨ k = 5 ∨ k = 6 := by omega
  · cases hq
    rfl
  · cases hq
    rfl
  · cases hq
    rfl

end Streams

end Propositional
