import TableTalk.Proofs.Failure
import TableTalk.Proofs.Text.Ascii
import TableTalk.Proofs.Text.Search
import TableTalk.Proofs.World.Action
import TableTalk.Source.Location

/-!
# Requests

What comes of a request depends on the world only by what the address gives next, and all that it
changes is that it is noted down.
-/

namespace TableTalk

open Text Web

theorem toLower_eq_iff_of_not_alpha {c d : Char} (hd : d.toNat < 128) (halpha : d.isAlpha = false) :
    c.toLower = d ↔ c = d := by
  by_cases hc : c.toNat < 128
  · have hall : ∀ n m : Fin 128, (Char.ofNat m).isAlpha = false →
        ((Char.ofNat n).toLower = Char.ofNat m ↔ Char.ofNat n = Char.ofNat m) := by decide +kernel
    have h := hall ⟨c.toNat, hc⟩ ⟨d.toNat, hd⟩
    rw [Char.ofNat_toNat, Char.ofNat_toNat] at h
    exact h halpha
  · rw [toLower_of_not_ascii hc]

namespace Web.Address

theorem scheme_settlePath {a b : Address} (h : settlePath a = .ok b) :
    b.scheme = a.scheme ∧ b.host = a.host := by
  rw [settlePath] at h
  split at h
  · cases h
  · split at h
    · split at h
      · cases h
      · split at h
        · cases h
        · cases h
          exact ⟨rfl, rfl⟩
    · cases h
      exact ⟨rfl, rfl⟩

theorem notMem_scheme_ofChars (cs : List Char) {c : Char} (hc : c ∈ [':', '/']) :
    c ∉ (Draft.ofChars cs).scheme := by
  have hscheme : (Draft.ofChars cs).scheme = ((takeScheme? cs).getD ([], cs)).1 := rfl
  rw [hscheme, takeScheme?]
  split
  · next scheme rest hcut =>
    obtain rfl : cs.takeWhile (fun d => ! [':', '/', '?', '#'].contains d) = scheme :=
      (Prod.mk.inj hcut).1
    dsimp only
    split
    · intro hmem
      have hstop := List.mem_takeWhile_imp hmem
      simp only [List.mem_cons, List.not_mem_nil, or_false] at hc
      rcases hc with rfl | rfl <;> exact absurd hstop (by decide)
    · exact List.not_mem_nil
  · exact List.not_mem_nil

/-- The scheme of an address holds neither a colon nor a slash. -/
theorem notMem_scheme {s : String} {a : Address} (h : parse s = .ok a) {c : Char}
    (hc : c ∈ [':', '/']) : c ∉ a.scheme.toList := by
  obtain ⟨-, -, h⟩ := bind_eq_ok h
  obtain ⟨host, -, h⟩ := bind_eq_ok h
  obtain ⟨port, -, h⟩ := bind_eq_ok h
  obtain ⟨b, hsettle, h⟩ := bind_eq_ok h
  cases h
  have hplain : c.toNat < 128 ∧ c.isAlpha = false := by
    simp only [List.mem_cons, List.not_mem_nil, or_false] at hc
    rcases hc with rfl | rfl <;> exact ⟨by decide, by decide⟩
  have hscheme : b.scheme.toList = (Draft.ofChars s.toList).scheme.map Char.toLower := by
    rw [(scheme_settlePath hsettle).1, String.toList_ofList]
  change c ∉ b.scheme.toList
  rw [hscheme]
  intro hmem
  obtain ⟨d, hd, hequal⟩ := List.mem_map.1 hmem
  rw [toLower_eq_iff_of_not_alpha hplain.1 hplain.2] at hequal
  exact notMem_scheme_ofChars s.toList hc (hequal ▸ hd)

theorem rooted_of_isAbsolute {a : Address} (h : a.isAbsolute = true) : a.rooted = a :=
  if_pos h

/-- The text of an address that names where requests are sent starts with a scheme. -/
theorem namesScheme_text {s : String} {a : Address} (h : parse s = .ok a)
    (habsolute : a.isAbsolute = true) : Source.namesScheme a.text = true := by
  have hne : a.scheme ≠ "" := by
    intro hnil
    simp [isAbsolute, hnil] at habsolute
  obtain ⟨rest, hrest⟩ : ∃ rest, a.text.toList = a.scheme.toList ++ ':' :: rest := by
    simp [text, if_neg hne]
  have hall : ∀ c ∈ a.scheme.toList, (! ['/', ':'].contains c) = true := by
    intro c hc
    have hcolon : c ≠ ':' := fun heq => notMem_scheme h (c := ':') (by decide) (heq ▸ hc)
    have hslash : c ≠ '/' := fun heq => notMem_scheme h (c := '/') (by decide) (heq ▸ hc)
    simp [hcolon, hslash]
  obtain ⟨c, cs, hscheme⟩ := List.exists_cons_of_ne_nil (l := a.scheme.toList) (by simpa using hne)
  rw [Source.namesScheme, cutBefore, hrest, takeWhile_append_of_head hall (by simp),
    dropWhile_append_of_head hall (by simp), hscheme]
  rfl

end Web.Address

namespace World

def received (w : World) (address : String) : Outcome :=
  (w.web.next address).received

def sent (w : World) (r : Request) : World :=
  { w with web := { w.web with requests := w.web.requests ++ [r] } }

end World

def Web.Outcome.reply? : Outcome → Except Failure Reply
  | .reply r => .ok r
  | .broken kind message => .error (.transport kind message)
  | .garbled => .error .badHeader

theorem World.send_run (r : Request) (w : World) :
    World.send r w = ((w.received r.address).reply?, w.sent r) := by
  rw [World.send, Action.bind_of_ok (Action.get_run w)]
  simp only [Exchange.send]
  rw [Action.bind_of_ok (Action.set_run w _), World.received]
  cases (w.web.next r.address).received <;> rfl

namespace Source

def replyOf (address : Address) (outcome : Outcome) : Except Failure (Reply × Option Address) :=
  match outcome.reply? with
  | .error f => .error f
  | .ok reply =>
    if namesScheme address.text then (onward? address reply).map (Prod.mk reply)
    else .error (.noScheme address.text)

theorem ask_run (method : String) (address : Address) (body : Option Json) (w : World) :
    ask method address body w = (replyOf address (w.received address.text),
      w.sent ⟨method, address.text, body⟩) := by
  have hsend := World.send_run ⟨method, address.text, body⟩ w
  rw [ask, replyOf]
  cases hreply : (w.received address.text).reply? with
  | error f =>
    rw [hreply] at hsend
    exact Action.bind_of_error hsend
  | ok reply =>
    rw [hreply] at hsend
    rw [Action.bind_of_ok hsend]
    by_cases hscheme : namesScheme address.text = true
    · simp only [hscheme, Bool.not_true, Bool.false_eq_true, if_false, if_true]
      cases onward? address reply with
      | error f => exact Action.bind_of_error (Action.ofExcept_run (.error f) _)
      | ok onward => exact Action.bind_of_ok (Action.ofExcept_run (.ok onward) _)
    · rw [Bool.not_eq_true] at hscheme
      simp only [hscheme, Bool.not_false, if_true, Bool.false_eq_true, if_false]
      exact Action.bind_of_error (Action.throw_run _ _)

def LeadsAstray (address : Address) (r : Reply) : Prop :=
  isRedirect r.status = true ∧ ∃ location fault, r.header? "location" = some location ∧
    address.follow location = .error fault ∧ ∀ f, fault ≠ .location f

theorem leadsAstray_iff {address : Address} {r : Reply} {location : String}
    (hlocation : r.header? "location" = some location) (hredirect : isRedirect r.status = true) :
    LeadsAstray address r ↔
      ∃ fault, address.follow location = .error fault ∧ ∀ f, fault ≠ .location f := by
  constructor
  · rintro ⟨-, location', fault, hheader, hfollow⟩
    obtain rfl := Option.some.inj (hlocation.symm.trans hheader)
    exact ⟨fault, hfollow⟩
  · rintro ⟨fault, hfollow⟩
    exact ⟨hredirect, location, fault, hlocation, hfollow⟩

/-- Where a reply sends the client on to is told, or its location is no address, or it leads
astray. -/
theorem onward?_cases (address : Address) (r : Reply) :
    (¬ LeadsAstray address r ∧ ∃ onward, onward? address r = .ok onward) ∨
      (¬ LeadsAstray address r ∧ ∃ message,
        onward? address r = .error (.transport "RemoteProtocolError" message)) ∨
      (LeadsAstray address r ∧
        ((∃ message, onward? address r = .error (.badAddress message)) ∨
          ∃ fault, onward? address r = .error (.badName fault))) := by
  unfold onward?
  cases hlocation : r.header? "location" with
  | none =>
    refine Or.inl ⟨?_, none, rfl⟩
    rintro ⟨-, location, fault, hheader, -, -⟩
    rw [hlocation] at hheader
    cases hheader
  | some location =>
    by_cases hredirect : isRedirect r.status = true
    · rw [leadsAstray_iff hlocation hredirect]
      dsimp only
      rw [if_pos hredirect]
      cases address.follow location with
      | ok next =>
        refine Or.inl ⟨?_, some next, rfl⟩
        rintro ⟨fault, hfault, -⟩
        cases hfault
      | error fault =>
        cases fault with
        | location f =>
          refine Or.inr (Or.inl ⟨?_, _, rfl⟩)
          rintro ⟨fault, hfault, hother⟩
          exact hother f (Except.error.inj hfault).symm
        | target f => exact Or.inr (Or.inr ⟨⟨_, rfl, by simp⟩, Or.inl ⟨_, rfl⟩⟩)
        | host f => exact Or.inr (Or.inr ⟨⟨_, rfl, by simp⟩, Or.inr ⟨f, rfl⟩⟩)
    · refine Or.inl ⟨fun h => hredirect h.1, none, ?_⟩
      dsimp only
      rw [if_neg hredirect]

theorem onward?_of_not_isRedirect (address : Address) {r : Reply}
    (h : isRedirect r.status = false) : onward? address r = .ok none := by
  unfold onward?
  cases r.header? "location" with
  | none => rfl
  | some location => exact if_neg (Bool.eq_false_iff.1 h)

theorem onward?_of_isSuccess (address : Address) {r : Reply} (h : isSuccess r.status = true) :
    onward? address r = .ok none := by
  refine onward?_of_not_isRedirect address ?_
  simp only [isSuccess, Bool.and_eq_true, decide_eq_true_eq] at h
  simp only [isRedirect, Bool.or_eq_false_iff, beq_eq_false_iff_ne]
  omega

/-- What is received that is put down neither to the server nor to the way there. -/
inductive Strays (address : Address) : Outcome → Prop
  | sender {kind message : String} : kind ∈ Failure.senderFaults →
      Strays address (.broken kind message)
  | garbled : Strays address .garbled
  | noScheme {r : Reply} : namesScheme address.text = false → Strays address (.reply r)
  | astray {r : Reply} : LeadsAstray address r → Strays address (.reply r)

/-- A failed request is told as one on the way exactly if what is received does not stray. -/
theorem replyOf_cases (address : Address) (outcome : Outcome) :
    (¬ Strays address outcome ∧ ∃ reply onward, outcome = .reply reply ∧
      onward? address reply = .ok onward ∧ replyOf address outcome = .ok (reply, onward)) ∨
    (¬ Strays address outcome ∧ ∃ f, replyOf address outcome = .error f ∧
      f.isTransportFailure = true ∧ ∀ reply onward, outcome = .reply reply →
        onward? address reply ≠ .ok onward) ∨
    (Strays address outcome ∧ ∃ f, replyOf address outcome = .error f ∧
      f.isTransportFailure = false ∧ f.isSourceFailure = false ∧ f.isRemoteFailure = false) := by
  cases outcome with
  | garbled => exact Or.inr (Or.inr ⟨.garbled, .badHeader, rfl, rfl, rfl, rfl⟩)
  | broken kind message =>
    by_cases hkind : kind ∈ Failure.senderFaults
    · have hsender : Failure.isTransportFailure (.transport kind message) = false := by
        simpa [Failure.isTransportFailure] using hkind
      refine Or.inr (Or.inr ⟨.sender hkind, .transport kind message, rfl, hsender, ?_, rfl⟩)
      simp [Failure.isSourceFailure, hsender, Failure.isDataFailure, Failure.isSystemFailure]
    · refine Or.inr (Or.inl ⟨?_, .transport kind message, rfl, ?_, by simp⟩)
      · intro h
        cases h with
        | sender h => exact hkind h
      · simpa [Failure.isTransportFailure] using hkind
  | reply r =>
    by_cases hscheme : namesScheme address.text = true
    · have hreply : replyOf address (.reply r) = (onward? address r).map (Prod.mk r) :=
        if_pos hscheme
      have hstrays (hastray : ¬ LeadsAstray address r) : ¬ Strays address (.reply r) := by
        intro h
        cases h with
        | noScheme h =>
          rw [hscheme] at h
          cases h
        | astray h => exact hastray h
      rcases onward?_cases address r with
        ⟨hastray, onward, honward⟩ | ⟨hastray, message, honward⟩ | ⟨hastray, honward⟩
      · exact Or.inl ⟨hstrays hastray, r, onward, rfl, honward, by rw [hreply, honward]; rfl⟩
      · refine Or.inr (Or.inl ⟨hstrays hastray, _, by rw [hreply, honward]; rfl, rfl, ?_⟩)
        rintro r' onward ⟨⟩ hother
        rw [honward] at hother
        cases hother
      · refine Or.inr (Or.inr ⟨.astray hastray, ?_⟩)
        rcases honward with ⟨message, honward⟩ | ⟨fault, honward⟩
        · exact ⟨.badAddress message, by rw [hreply, honward]; rfl, rfl, rfl, rfl⟩
        · exact ⟨.badName fault, by rw [hreply, honward]; rfl, rfl, rfl, rfl⟩
    · rw [Bool.not_eq_true] at hscheme
      refine Or.inr (Or.inr ⟨.noScheme hscheme, .noScheme address.text, ?_, rfl, rfl, rfl⟩)
      rw [replyOf, hscheme]
      rfl

end Source

end TableTalk
