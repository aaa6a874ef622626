import TableTalk.Proofs.Source.Request
import TableTalk.Source.Location

/-!
# Loading from two locations

A table is loaded from its primary location or, if that cannot be read, from the alternative one,
and otherwise the failure names the locations. The exceptions are what `Slips` lists: bytes that are
not in the encoding of tables, and what a server or an address may do to a client beyond failing.
-/

namespace TableTalk.Source

open TableTalk.Action Text Web

inductive FileSlips (location : String) (w : World) : Prop
  | home : World.expandHome (Path.parse location) w = (.error .unknownHome, w) →
      FileSlips location w
  | undecodable {path : Path} {bytes : List UInt8} :
      World.expandHome (Path.parse location) w = (.ok path, w) →
      w.files.exists? w.cwd path = .ok true → w.files.read w.cwd path = .ok bytes →
      decodeUtf8? (dropMark bytes) = none → FileSlips location w

theorem fileSlips_iff {location : String} {w : World} {path : Path}
    (hhome : World.expandHome (Path.parse location) w = (.ok path, w)) :
    FileSlips location w ↔ w.files.exists? w.cwd path = .ok true ∧
      ∃ bytes, w.files.read w.cwd path = .ok bytes ∧ decodeUtf8? (dropMark bytes) = none := by
  constructor
  · intro h
    cases h with
    | home h =>
      rw [hhome] at h
      cases h
    | undecodable h hthere hread hdecode =>
      obtain rfl := Except.ok.inj (Prod.mk.inj (hhome.symm.trans h)).1
      exact ⟨hthere, _, hread, hdecode⟩
  · rintro ⟨hthere, bytes, hread, hdecode⟩
    exact .undecodable hhome hthere hread hdecode

theorem readCsvFile_run (location : String) (w : World) :
    ∃ r, readCsvFile location w = (r, w) ∧
      (Escapes Failure.isSourceFailure r ↔ FileSlips location w) := by
  rw [readCsvFile]
  rcases World.expandHome_cases (Path.parse location) w.environment w.homes with
    hhome | ⟨path, -, hhome⟩
  · have hhome := hhome w rfl rfl
    exact ⟨_, bind_of_error hhome, iff_of_true (escapes_error rfl) (.home hhome)⟩
  · have hhome := hhome w rfl rfl
    have hexists := World.pathExists_run path w
    rw [bind_of_ok hhome, fileSlips_iff hhome]
    cases hthere : w.files.exists? w.cwd path with
    | error fault =>
      rw [hthere] at hexists
      exact ⟨_, bind_of_error hexists, iff_of_false (not_escapes_error rfl) (by simp)⟩
    | ok there =>
      rw [hthere] at hexists
      rw [bind_of_ok hexists]
      cases there with
      | false =>
        exact ⟨.error (.missingTable path.text), rfl,
          iff_of_false (not_escapes_error rfl) (by simp)⟩
      | true =>
        refine ⟨_, World.readText_run true path w, ?_⟩
        cases w.files.read w.cwd path with
        | error fault => exact iff_of_false (not_escapes_error rfl) (by simp)
        | ok bytes =>
          dsimp only
          rw [if_pos rfl]
          cases hdecode : decodeUtf8? (dropMark bytes) with
          | none => exact iff_of_true (escapes_error rfl) ⟨rfl, bytes, rfl, hdecode⟩
          | some cs =>
            refine iff_of_false (not_escapes_ok _) ?_
            rintro ⟨-, bytes', h, hnone⟩
            rw [← Except.ok.inj h, hdecode] at hnone
            cases hnone

def getting (address : Address) : Request :=
  ⟨"GET", address.text, none⟩

/-- On the way along at most so many redirects something is received that strays. -/
inductive FetchStrays : Address → Nat → World → Prop
  | here {address : Address} {redirects : Nat} {w : World} :
      Strays address (w.received address.text) → FetchStrays address (redirects + 1) w
  | onward {address next : Address} {redirects : Nat} {w : World} {reply : Reply} :
      replyOf address (w.received address.text) = .ok (reply, some next) →
      FetchStrays next redirects (w.sent (getting address)) →
      FetchStrays address (redirects + 1) w

theorem fetchStrays_succ_iff {address : Address} {redirects : Nat} {w : World} :
    FetchStrays address (redirects + 1) w ↔ Strays address (w.received address.text) ∨
      ∃ reply next, replyOf address (w.received address.text) = .ok (reply, some next) ∧
        FetchStrays next redirects (w.sent (getting address)) := by
  constructor
  · intro h
    cases h with
    | here h => exact Or.inl h
    | onward hreply hnext => exact Or.inr ⟨_, _, hreply, hnext⟩
  · rintro (h | ⟨reply, next, hreply, hnext⟩)
    · exact .here h
    · exact .onward hreply hnext

theorem escapes_fetch_iff {address : Address} {redirects : Nat} {w : World} :
    Escapes Failure.isSourceFailure (fetch address redirects w).1 ↔
      FetchStrays address redirects w := by
  induction redirects generalizing address w with
  | zero =>
    refine iff_of_false (not_escapes_error rfl) fun h => ?_
    cases h
  | succ redirects ih =>
    have hask := ask_run "GET" address none w
    rw [fetch, fetchStrays_succ_iff]
    rcases replyOf_cases address (w.received address.text) with
      ⟨hstray, reply, onward, -, -, hreply⟩ | ⟨hstray, f, hreply, hf, -⟩ |
        ⟨hstray, f, hreply, -, hf, -⟩
    · rw [hreply] at hask
      rw [bind_of_ok hask, or_iff_right hstray, hreply]
      cases onward with
      | none => exact iff_of_false (not_escapes_ok _) (by simp)
      | some next =>
        dsimp only
        rw [ih]
        simp only [Except.ok.injEq, Prod.mk.injEq, Option.some.injEq, exists_and_left,
          and_assoc, exists_eq_left']
        rfl
    · rw [hreply] at hask
      rw [bind_of_error hask, or_iff_right hstray, hreply]
      refine iff_of_false (not_escapes_error ?_) (by simp)
      simp [Failure.isSourceFailure, hf]
    · rw [hreply] at hask
      rw [bind_of_error hask]
      exact iff_of_true (escapes_error hf) (Or.inl hstray)

def getPage (ownClient : Bool) (address : Address) : Action (Address × Reply) :=
  if ownClient then do
    let (reply, _) ← ask "GET" address none
    pure (address, reply)
  else fetch address (redirectLimit + 1)

def GetStrays (ownClient : Bool) (address : Address) (w : World) : Prop :=
  if ownClient then Strays address (w.received address.text)
  else FetchStrays address (redirectLimit + 1) w

theorem escapes_getPage_iff {ownClient : Bool} {address : Address} {w : World} :
    Escapes Failure.isSourceFailure (getPage ownClient address w).1 ↔
      GetStrays ownClient address w := by
  cases ownClient with
  | false => exact escapes_fetch_iff
  | true =>
    have hask := ask_run "GET" address none w
    rw [getPage, if_pos rfl, GetStrays, if_pos rfl]
    rcases replyOf_cases address (w.received address.text) with
      ⟨hstray, reply, onward, -, -, hreply⟩ | ⟨hstray, f, hreply, hf, -⟩ |
        ⟨hstray, f, hreply, -, hf, -⟩
    · rw [hreply] at hask
      rw [bind_of_ok hask]
      exact iff_of_false (not_escapes_ok _) hstray
    · rw [hreply] at hask
      rw [bind_of_error hask]
      refine iff_of_false (not_escapes_error ?_) hstray
      simp [Failure.isSourceFailure, hf]
    · rw [hreply] at hask
      rw [bind_of_error hask]
      exact iff_of_true (escapes_error hf) hstray

inductive PageSlips (ownClient : Bool) (location : String) (w : World) : Prop
  | malformed {f : Failure} : addressOf location = .error f → PageSlips ownClient location w
  | strays {address : Address} : addressOf location = .ok address →
      GetStrays ownClient address.rooted w → PageSlips ownClient location w
  | noText {address : Address} {found : Address × Reply} {fault : Reply.TextFault} :
      addressOf location = .ok address →
      (getPage ownClient address.rooted w).1 = .ok found → isSuccess found.2.status = true →
      found.2.text = .error fault → PageSlips ownClient location w

theorem eq_badAddress_of_addressOf {location : String} {f : Failure}
    (h : addressOf location = .error f) : ∃ message, f = .badAddress message := by
  rw [addressOf] at h
  cases hparse : Address.parse location with
  | ok a =>
    rw [hparse] at h
    cases h
  | error fault =>
    rw [hparse] at h
    exact ⟨_, (Except.error.inj h).symm⟩

theorem isSourceFailure_textFailure (fault : Reply.TextFault) :
    (textFailure fault).isSourceFailure = false := by
  cases fault with
  | contentType => rfl
  | charset fault => cases fault <;> rfl

theorem pageSlips_iff {ownClient : Bool} {location : String} {w : World} {address : Address}
    (h : addressOf location = .ok address) :
    PageSlips ownClient location w ↔ GetStrays ownClient address.rooted w ∨
      ∃ found fault, (getPage ownClient address.rooted w).1 = .ok found ∧
        isSuccess found.2.status = true ∧ found.2.text = .error fault := by
  have haddress {address' : Address} (h' : addressOf location = .ok address') :
      address' = address :=
    (Except.ok.inj (h.symm.trans h')).symm
  constructor
  · intro hslips
    cases hslips with
    | malformed h' =>
      rw [h] at h'
      cases h'
    | strays h' hstrays => exact Or.inl (haddress h' ▸ hstrays)
    | noText h' hpage hsuccess htext =>
      exact Or.inr ⟨_, _, haddress h' ▸ hpage, hsuccess, htext⟩
  · rintro (hstrays | ⟨found, fault, hpage, hsuccess, htext⟩)
    · exact .strays h hstrays
    · exact .noText h hpage hsuccess htext

def textOf (found : Address × Reply) : Except Failure String :=
  if isSuccess found.2.status then found.2.text.mapError textFailure
  else .error (.badStatus
    (statusReport found.2.status found.1.text (found.2.header? "location")))

theorem download_eq (ownClient : Bool) (location : String) :
    download ownClient location = (Action.ofExcept (addressOf location) >>= fun address =>
      getPage ownClient address.rooted >>= fun found => Action.ofExcept (textOf found)) := by
  have htext (found : Address × Reply) : Action.ofExcept (textOf found) =
      if isSuccess found.2.status then Action.ofExcept (found.2.text.mapError textFailure)
      else throw (Failure.badStatus
        (statusReport found.2.status found.1.text (found.2.header? "location"))) := by
    rw [textOf]
    split <;> rfl
  simp only [htext]
  rw [download]
  refine congrArg (Action.ofExcept (addressOf location) >>= ·) (funext fun address => ?_)
  cases ownClient with
  | false => rfl
  | true => simp only [getPage, if_true, bind_assoc, pure_bind]

theorem escapes_textOf_iff {found : Address × Reply} :
    Escapes Failure.isSourceFailure (textOf found) ↔
      isSuccess found.2.status = true ∧ ∃ fault, found.2.text = .error fault := by
  rw [textOf]
  by_cases hsuccess : isSuccess found.2.status = true
  · rw [if_pos hsuccess]
    cases found.2.text with
    | ok text => exact iff_of_false (not_escapes_ok text) (by simp)
    | error fault =>
      exact iff_of_true (escapes_error (isSourceFailure_textFailure fault))
        ⟨hsuccess, fault, rfl⟩
  · rw [if_neg hsuccess]
    exact iff_of_false (not_escapes_error rfl) fun h => hsuccess h.1

theorem escapes_download_iff {ownClient : Bool} {location : String} {w : World} :
    Escapes Failure.isSourceFailure (download ownClient location w).1 ↔
      PageSlips ownClient location w := by
  rw [download_eq]
  cases haddress : addressOf location with
  | error f =>
    obtain ⟨message, rfl⟩ := eq_badAddress_of_addressOf haddress
    rw [bind_of_error (ofExcept_run _ w)]
    exact iff_of_true (escapes_error rfl) (.malformed haddress)
  | ok address =>
    rw [bind_of_ok (ofExcept_run _ w), pageSlips_iff haddress, ← escapes_getPage_iff]
    rcases hpage : getPage ownClient address.rooted w with ⟨f | found, w'⟩
    · rw [bind_of_error hpage, escapes_error_iff, escapes_error_iff, or_iff_left (by simp)]
    · rw [bind_of_ok hpage, ofExcept_run, or_iff_right (not_escapes_ok found), escapes_textOf_iff]
      constructor
      · rintro ⟨hsuccess, fault, htext⟩
        exact ⟨found, fault, rfl, hsuccess, htext⟩
      · rintro ⟨found', fault, h, hsuccess, htext⟩
        obtain rfl := Except.ok.inj h
        exact ⟨hsuccess, fault, htext⟩

/-- What lies at a location is no table, and not one of the failures for which the alternative
location is tried. -/
def Slips (ownClient : Bool) (location : String) (w : World) : Prop :=
  if isUrl location then PageSlips ownClient location w else FileSlips location w

theorem escapes_readTable_iff {ownClient : Bool} {location : String} {w : World} :
    Escapes Failure.isSourceFailure (readTable ownClient location w).1 ↔
      Slips ownClient location w := by
  have htext : Escapes Failure.isSourceFailure (readCsvText ownClient location w).1 ↔
      Slips ownClient location w := by
    rw [readCsvText, Slips]
    by_cases hurl : isUrl location = true
    · rw [if_pos hurl, if_pos hurl]
      exact escapes_download_iff
    · rw [if_neg hurl, if_neg hurl]
      obtain ⟨r, hrun, hslips⟩ := readCsvFile_run location w
      rw [hrun]
      exact hslips
  rw [← htext, readTable]
  rcases hread : readCsvText ownClient location w with ⟨f | text, w'⟩
  · rw [bind_of_error hread, escapes_error_iff, escapes_error_iff]
  · rw [bind_of_ok hread, ofExcept_run]
    refine iff_of_false ?_ (not_escapes_ok text)
    rw [Csv.parse, Csv.parseChars]
    split
    · exact not_escapes_error rfl
    · split
      · exact not_escapes_error rfl
      · exact not_escapes_ok _

section Loads

variable {ownClient : Bool} {location primary other : String} {alternative : Option String}
  {w w₁ w₂ : World} {t : Table} {f g : Failure}

theorem slips_iff_of_error (h : readTable ownClient location w = (.error f, w₁)) :
    Slips ownClient location w ↔ f.isSourceFailure = false := by
  rw [← escapes_readTable_iff, h]
  exact escapes_error_iff

theorem loadTable_of_ok (h : readTable ownClient primary w = (.ok t, w₁)) :
    loadTable ownClient primary alternative w = (.ok t, w₁) :=
  orElseIf_of_ok h

theorem loadTable_of_slips (h : readTable ownClient primary w = (.error f, w₁))
    (hslips : Slips ownClient primary w) :
    loadTable ownClient primary alternative w = (.error f, w₁) :=
  orElseIf_of_other h ((slips_iff_of_error h).1 hslips)

theorem isSourceFailure_of_not_slips (h : readTable ownClient location w = (.error f, w₁))
    (hslips : ¬ Slips ownClient location w) : f.isSourceFailure = true := by
  rwa [slips_iff_of_error h, Bool.not_eq_false] at hslips

theorem loadTable_none (h : readTable ownClient primary w = (.error f, w₁))
    (hslips : ¬ Slips ownClient primary w) :
    loadTable ownClient primary none w = (.error (.unreadableTable primary none f.message), w₁) :=
  orElseIf_of_error h (isSourceFailure_of_not_slips h hslips)

theorem loadTable_some (h : readTable ownClient primary w = (.error f, w₁))
    (hslips : ¬ Slips ownClient primary w) :
    loadTable ownClient primary (some other) w =
      orElseIf Failure.isSourceFailure (readTable ownClient other)
        (fun g => throw (.unreadableTable primary (some other) g.message)) w₁ :=
  orElseIf_of_error h (isSourceFailure_of_not_slips h hslips)

/-- A load gives the table at the primary location or else that at the alternative one, which is
read only after the attempt at the primary one failed; if there is none it says that the locations
could not be read. -/
structure LoadsOrReports (ownClient : Bool) (primary : String) (alternative : Option String)
    (w : World) : Prop where
  primary_read : ∀ t w₁, readTable ownClient primary w = (.ok t, w₁) →
    loadTable ownClient primary alternative w = (.ok t, w₁)
  alternative_read : ∀ f w₁ other t w₂, readTable ownClient primary w = (.error f, w₁) →
    alternative = some other → readTable ownClient other w₁ = (.ok t, w₂) →
      loadTable ownClient primary alternative w = (.ok t, w₂)
  without_alternative : ∀ f w₁, readTable ownClient primary w = (.error f, w₁) →
    alternative = none → loadTable ownClient primary alternative w =
      (.error (.unreadableTable primary none f.message), w₁)
  neither_read : ∀ f w₁ other g w₂, readTable ownClient primary w = (.error f, w₁) →
    alternative = some other → readTable ownClient other w₁ = (.error g, w₂) →
      loadTable ownClient primary alternative w =
        (.error (.unreadableTable primary (some other) g.message), w₂)

/-- What slips is not reported as an unreadable table. -/
theorem ne_unreadableTable (h : f.isSourceFailure = false) (cause : String) :
    f ≠ .unreadableTable primary alternative cause := by
  rintro rfl
  cases h

theorem LoadsOrReports.not_slips_primary
    (h : LoadsOrReports ownClient primary alternative w) : ¬ Slips ownClient primary w := by
  intro hslips
  obtain ⟨f, hf, hother⟩ := escapes_readTable_iff.2 hslips
  have hread : readTable ownClient primary w = (.error f, (readTable ownClient primary w).2) :=
    Prod.ext hf rfl
  have hload : loadTable ownClient primary alternative w = (.error f, _) :=
    loadTable_of_slips hread hslips
  cases alternative with
  | none =>
    have hreport := hload.symm.trans (h.without_alternative _ _ hread rfl)
    exact ne_unreadableTable hother _ (Except.error.inj (Prod.mk.inj hreport).1)
  | some other =>
    rcases halternative : readTable ownClient other (readTable ownClient primary w).2 with
      ⟨g | t, w₂⟩
    · have hreport := hload.symm.trans (h.neither_read _ _ _ _ _ hread rfl halternative)
      exact ne_unreadableTable hother _ (Except.error.inj (Prod.mk.inj hreport).1)
    · have hreport := hload.symm.trans (h.alternative_read _ _ _ _ _ hread rfl halternative)
      cases (Prod.mk.inj hreport).1

/-- A load does as it should exactly if nothing slips at a location that is tried. -/
theorem loadsOrReports_iff (ownClient : Bool) (primary : String) (alternative : Option String)
    (w : World) :
    LoadsOrReports ownClient primary alternative w ↔ ¬ Slips ownClient primary w ∧
      ∀ other f w₁, alternative = some other → readTable ownClient primary w = (.error f, w₁) →
        ¬ Slips ownClient other w₁ := by
  constructor
  · intro h
    refine ⟨h.not_slips_primary, ?_⟩
    rintro other f w₁ rfl hread hslips
    obtain ⟨g, hg, hother⟩ := escapes_readTable_iff.2 hslips
    have halternative : readTable ownClient other w₁ =
        (.error g, (readTable ownClient other w₁).2) :=
      Prod.ext hg rfl
    have hload : loadTable ownClient primary (some other) w = (.error g, _) :=
      (loadTable_some hread h.not_slips_primary).trans (orElseIf_of_other halternative hother)
    have hreport := hload.symm.trans (h.neither_read _ _ _ _ _ hread rfl halternative)
    exact ne_unreadableTable hother _ (Except.error.inj (Prod.mk.inj hreport).1)
  · rintro ⟨hprimary, hother⟩
    refine ⟨fun t w₁ => loadTable_of_ok, ?_, ?_, ?_⟩
    · rintro f w₁ other t w₂ hread rfl halternative
      exact (loadTable_some hread hprimary).trans (orElseIf_of_ok halternative)
    · rintro f w₁ hread rfl
      exact loadTable_none hread hprimary
    · rintro f w₁ other g w₂ hread rfl halternative
      exact (loadTable_some hread hprimary).trans (orElseIf_of_error halternative
        (isSourceFailure_of_not_slips halternative (hother other f w₁ rfl hread)))

end Loads

def latinWorld : World :=
  { World.bare with
    files := ⟨[
      (["latin.csv"], .file [0x61, 0x0A, 0xE9]),
      (["plain.csv"], .file [0x61, 0x0A, 0x31])]⟩ }

/-- The alternative location is not tried though a table can be read there. -/
theorem not_loadsOrReports_latin :
    (readTable false "plain.csv" latinWorld).1 = .ok ⟨["a"], [[some "1"]]⟩ ∧
      (loadTable false "latin.csv" (some "plain.csv") latinWorld).1 = .error .undecodable ∧
      ¬ LoadsOrReports false "latin.csv" (some "plain.csv") latinWorld := by
  have hload : (loadTable false "latin.csv" (some "plain.csv") latinWorld).1 =
      .error .undecodable := by decide +kernel
  refine ⟨by decide +kernel, hload, ?_⟩
  intro h
  apply h.not_slips_primary
  have hprimary : (readTable false "latin.csv" latinWorld).1 = .error .undecodable := by
    decide +kernel
  exact escapes_readTable_iff.1 ⟨_, hprimary, rfl⟩

end TableTalk.Source
