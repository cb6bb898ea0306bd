import Mathlib.Data.List.Forall2
import Mathlib.Data.List.Perm.Basic
import QrlBackend.AuditGate

/-!
# What the audit gate overlooks

An allowlist excuses an advisory when one of its exceptions covers it and none of those has
expired. A build should pass when every record of the report at or above the level is
excused (`EveryRecordExcused`), and this does not depend on any order.

The gate asks less. Of the records with one key it keeps the first, whatever its severity,
and of the exceptions that cover an advisory it looks at the first (`passes_iff`). So it
decides as it should exactly when it refuses anyway, or when no record behind another and no
exception behind another would have changed its answer (`LooksAtEnough`).
-/

set_option autoImplicit false

namespace QrlBackend

namespace AuditGate

/-! ## The records of a report -/

/-- The advisory of an element of a `via` list, if it is a record that says which. -/
def advisory? (via : Json) : Option Advisory :=
  match via.field? "url", via.field? "name" with
  | some (.string url), some (.string pkg) =>
    if isNonEmptyString url ∧ isNonEmptyString pkg then some (advisoryOf url pkg via) else none
  | _, _ => none

def viasOf (entry : Json) : List Json :=
  match entry.field? "via" with
  | some (.array vias) => vias
  | _ => []

/-- The records of the report, in the order in which the gate meets them. -/
def records (vulnerabilities : Vulnerabilities) : List Advisory :=
  vulnerabilities.flatMap fun entry => (viasOf entry.2).filterMap advisory?

/-- An element of a `via` list points at an entry or describes an advisory. -/
def WellFormedVia (vulnerabilities : Vulnerabilities) (via : Json) : Prop :=
  (∃ other, via = .string other ∧ other ∈ vulnerabilities.map Prod.fst) ∨
    ∃ advisory, advisory? via = some advisory

/-- Every entry has a `via` list, which is not empty, of well formed elements. -/
def WellFormed (vulnerabilities : Vulnerabilities) : Prop :=
  ∀ entry ∈ vulnerabilities, ∃ vias, entry.2.field? "via" = some (.array vias) ∧ vias ≠ [] ∧
    ∀ via ∈ vias, WellFormedVia vulnerabilities via

section Collect

variable {vulnerabilities : Vulnerabilities} {name : String} {via : Json}
  {advisories advisories' : JsMap String Advisory}

/-- Keep an advisory unless there is one of its key. -/
def keep (advisories : JsMap String Advisory) (advisory : Advisory) : JsMap String Advisory :=
  advisories.setIfNew advisory.key advisory

/-- A well-formed via keeps its record, if it has one. -/
theorem collectVia_of_wellFormed (h : WellFormedVia vulnerabilities via) :
    collectVia vulnerabilities name advisories via =
      .ok ((advisory? via).toList.foldl keep advisories) := by
  rcases h with ⟨other, rfl, hother⟩ | ⟨advisory, hadvisory⟩
  · obtain ⟨entry, hentry, rfl⟩ := List.mem_map.1 hother
    have hany : vulnerabilities.any (fun e => e.1 = entry.1) = true :=
      List.any_eq_true.2 ⟨entry, hentry, decide_eq_true rfl⟩
    rw [collectVia, if_pos hany]
    rfl
  · rw [hadvisory]
    unfold advisory? at hadvisory
    split at hadvisory
    next url pkg hurl hpkg =>
      split at hadvisory
      next htexts =>
        have hrecord : ∃ fields, via = .object fields := by
          cases via with
          | object fields => exact ⟨fields, rfl⟩
          | _ => cases hurl
        obtain ⟨fields, rfl⟩ := hrecord
        rw [collectVia, hurl, hpkg]
        dsimp only
        rw [if_neg (by simp [htexts]), Option.some.inj hadvisory]
        rfl
      next => cases hadvisory
    next => cases hadvisory

/-- Other vias make the collection fail. -/
theorem wellFormedVia_of_collectVia
    (h : collectVia vulnerabilities name advisories via = .ok advisories') :
    WellFormedVia vulnerabilities via := by
  cases via with
  | string other =>
    left
    refine ⟨other, rfl, ?_⟩
    simp only [collectVia] at h
    split at h
    next hany =>
      obtain ⟨entry, hentry, heq⟩ := List.any_eq_true.1 hany
      exact List.mem_map.2 ⟨entry, hentry, of_decide_eq_true heq⟩
    next => cases h
  | object fields =>
    right
    simp only [collectVia] at h
    split at h
    next url pkg hurl hpkg =>
      split at h
      next => cases h
      next htexts =>
        refine ⟨advisoryOf url pkg (.object fields), ?_⟩
        rw [advisory?, hurl, hpkg]
        exact if_pos (by simpa [not_or] using htexts)
    next => cases h
  | _ => cases h

end Collect

theorem foldlM_ok {α β ε : Type} {g : β → α → Except ε β} {f : β → α → β} {l : List α}
    (h : ∀ x ∈ l, ∀ b, g b x = .ok (f b x)) (b : β) : l.foldlM g b = .ok (l.foldl f b) := by
  induction l generalizing b with
  | nil => rfl
  | cons x l ih =>
    rw [List.foldlM_cons, h x List.mem_cons_self]
    exact ih (fun y hy => h y (List.mem_cons_of_mem x hy)) (f b x)

theorem ok_of_foldlM {α β ε : Type} {g : β → α → Except ε β} {l : List α} {b b' : β}
    (h : l.foldlM g b = .ok b') : ∀ x ∈ l, ∃ c c', g c x = .ok c' := by
  induction l generalizing b with
  | nil => nofun
  | cons x l ih =>
    rw [List.foldlM_cons] at h
    cases hx : g b x with
    | error e =>
      rw [hx] at h
      cases h
    | ok c =>
      rw [hx] at h
      intro y hy
      rcases List.mem_cons.1 hy with rfl | hy
      · exact ⟨b, c, hx⟩
      · exact ih h y hy

/-- What is collected of a well-formed report is the records that are kept. -/
theorem collectAdvisories_of_wellFormed {vulnerabilities : Vulnerabilities}
    (h : WellFormed vulnerabilities) :
    collectAdvisories vulnerabilities =
      .ok ((records vulnerabilities).foldl keep .empty).values := by
  have hentry : ∀ entry ∈ vulnerabilities, ∀ advisories,
      collectEntry vulnerabilities advisories entry =
        .ok (((viasOf entry.2).filterMap advisory?).foldl keep advisories) := by
    rintro ⟨name, entry⟩ hmem advisories
    obtain ⟨vias, hvias, hne, hall⟩ := h _ hmem
    obtain ⟨via, rest, rfl⟩ := List.exists_cons_of_ne_nil hne
    have hlist : viasOf entry = via :: rest := by rw [viasOf, hvias]
    rw [collectEntry, hvias, hlist]
    refine (foldlM_ok (fun via hvia b => collectVia_of_wellFormed (hall via hvia)) _).trans ?_
    rw [List.filterMap_eq_flatMap_toList, List.foldl_flatMap]
  rw [collectAdvisories, foldlM_ok hentry, records, List.foldl_flatMap]
  rfl

/-- The gate collects the advisories of a report exactly when it is well formed. -/
theorem collectAdvisories_ok_iff {vulnerabilities : Vulnerabilities} :
    (∃ advisories, collectAdvisories vulnerabilities = .ok advisories) ↔
      WellFormed vulnerabilities := by
  refine ⟨fun ⟨advisories, h⟩ => ?_, fun h => ⟨_, collectAdvisories_of_wellFormed h⟩⟩
  rw [collectAdvisories] at h
  cases hfold : vulnerabilities.foldlM (collectEntry vulnerabilities) .empty with
  | error e =>
    rw [hfold] at h
    cases h
  | ok collected =>
    rintro ⟨name, entry⟩ hmem
    obtain ⟨b, b', hentry⟩ := ok_of_foldlM hfold _ hmem
    simp only [collectEntry] at hentry
    split at hentry
    next via rest hvia =>
      refine ⟨via :: rest, hvia, List.cons_ne_nil _ _, fun x hx => ?_⟩
      obtain ⟨c, c', hx⟩ := ok_of_foldlM hentry x hx
      exact wellFormedVia_of_collectVia hx
    next => cases hentry

/-- The record is the first of its key. -/
def IsFirst (records : List Advisory) (advisory : Advisory) : Prop :=
  records.find? (fun record => record.key = advisory.key) = some advisory

instance (records : List Advisory) (advisory : Advisory) : Decidable (IsFirst records advisory) :=
  inferInstanceAs (Decidable (_ = _))

/-- Of the records with one key the first is kept. -/
theorem mem_kept {records : List Advisory} {advisory : Advisory} :
    advisory ∈ (records.foldl keep .empty).values ↔ IsFirst records advisory := by
  have hget : ∀ key, (records.foldl keep .empty).get? key =
      records.find? fun record => record.key = key := fun key => by
    refine (JsMap.get?_foldl_setIfNew Advisory.key records .empty key).trans ?_
    rw [JsMap.get?_empty, Option.none_or]
  rw [JsMap.mem_values, IsFirst]
  constructor
  · rintro ⟨key, hkey⟩
    rw [hget] at hkey
    have hof : advisory.key = key := by simpa using List.find?_some hkey
    rwa [hof]
  · intro h
    exact ⟨advisory.key, (hget _).trans h⟩

/-! ## The decision -/

/-- The severity of the advisory is at or above the level. -/
def AtLevel (level : String) (advisory : Advisory) : Prop :=
  severityRank level ≤ severityRank advisory.severity

instance (level : String) (advisory : Advisory) : Decidable (AtLevel level advisory) :=
  inferInstanceAs (Decidable (_ ≤ _))

/-- An exception covers the advisory, and none that does has expired. -/
def Excused (allowlist : List AllowlistEntry) (advisory : Advisory) : Prop :=
  (∃ entry ∈ allowlist, entry.covers advisory = true) ∧
    ∀ entry ∈ allowlist, entry.covers advisory = true → entry.expired = false

/-- What the gate is for. -/
def EveryRecordExcused (level : String) (allowlist : List AllowlistEntry)
    (records : List Advisory) : Prop :=
  ∀ advisory ∈ records, AtLevel level advisory → Excused allowlist advisory

instance (level : String) (allowlist : List AllowlistEntry) (records : List Advisory) :
    Decidable (EveryRecordExcused level allowlist records) :=
  inferInstanceAs (Decidable (∀ advisory ∈ records, AtLevel level advisory →
      (∃ entry ∈ allowlist, entry.covers advisory = true) ∧
        ∀ entry ∈ allowlist, entry.covers advisory = true → entry.expired = false))

/-- The order of the records does not matter to it, nor that of the exceptions. -/
theorem EveryRecordExcused.perm {level : String} {allowlist allowlist' : List AllowlistEntry}
    {records records' : List Advisory} (hallowlist : allowlist.Perm allowlist')
    (hrecords : records.Perm records') :
    EveryRecordExcused level allowlist records ↔ EveryRecordExcused level allowlist' records' := by
  unfold EveryRecordExcused Excused
  simp only [hallowlist.mem_iff, hrecords.mem_iff]

/-- The first exception that covers the advisory. -/
def firstException (allowlist : List AllowlistEntry) (advisory : Advisory) :
    Option AllowlistEntry :=
  allowlist.find? (·.covers advisory)

/-- Some record at or above the level that is the first of its key has no exception, or has
an expired one as its first. -/
def Refused (level : String) (allowlist : List AllowlistEntry) (records : List Advisory) : Prop :=
  ∃ advisory, IsFirst records advisory ∧ AtLevel level advisory ∧
    ∀ entry ∈ firstException allowlist advisory, entry.expired = true

/-- Every record at or above the level that is behind another of its key is excused, and no
expired exception covers a record at or above the level that is the first of its key. -/
def NothingHidden (level : String) (allowlist : List AllowlistEntry) (records : List Advisory) :
    Prop :=
  (∀ advisory ∈ records, AtLevel level advisory → ¬ IsFirst records advisory →
    Excused allowlist advisory) ∧
  ∀ advisory ∈ records, AtLevel level advisory → IsFirst records advisory →
    ∀ entry ∈ allowlist, entry.covers advisory = true → entry.expired = false

/-- What the gate looks at is enough : it refuses because of it, or nothing else matters. -/
def LooksAtEnough (level : String) (allowlist : List AllowlistEntry) (records : List Advisory) :
    Prop :=
  Refused level allowlist records ∨ NothingHidden level allowlist records

section Decision

variable {level : String} {allowlist : List AllowlistEntry} {records : List Advisory}

theorem IsFirst.mem {advisory : Advisory} (h : IsFirst records advisory) : advisory ∈ records :=
  List.mem_of_find?_eq_some h

/-- The first exception is one of those that cover the record. -/
theorem of_firstException {advisory : Advisory} {entry : AllowlistEntry}
    (h : firstException allowlist advisory = some entry) :
    entry ∈ allowlist ∧ entry.covers advisory = true := by
  rw [firstException] at h
  exact ⟨List.mem_of_find?_eq_some h, by simpa using List.find?_some h⟩

/-- Where every record is excused the gate has no reason to refuse. -/
theorem EveryRecordExcused.not_refused (h : EveryRecordExcused level allowlist records) :
    ¬ Refused level allowlist records := by
  rintro ⟨advisory, hfirst, hlevel, hexpired⟩
  obtain ⟨⟨entry, hentry, hcovers⟩, hlive⟩ := h advisory hfirst.mem hlevel
  cases hfind : firstException allowlist advisory with
  | none => exact List.find?_eq_none.1 hfind entry hentry hcovers
  | some found =>
    have hdead := hexpired found hfind
    obtain ⟨hfound, hcover⟩ := of_firstException hfind
    rw [hlive found hfound hcover] at hdead
    cases hdead

/-- Passing tells that every record is excused exactly when what the gate looks at is enough. -/
theorem not_refused_iff :
    (¬ Refused level allowlist records ↔ EveryRecordExcused level allowlist records) ↔
      LooksAtEnough level allowlist records := by
  constructor
  · intro h
    by_cases hrefused : Refused level allowlist records
    · exact .inl hrefused
    · have hall := h.1 hrefused
      exact .inr ⟨fun advisory hmem hlevel _ => hall advisory hmem hlevel,
        fun advisory hmem hlevel _ => (hall advisory hmem hlevel).2⟩
  · intro henough
    refine ⟨fun hpasses => ?_, EveryRecordExcused.not_refused⟩
    obtain ⟨hbehind, hahead⟩ := henough.resolve_left hpasses
    intro advisory hmem hlevel
    by_cases hfirst : IsFirst records advisory
    · refine ⟨?_, hahead advisory hmem hlevel hfirst⟩
      by_contra hnone
      refine hpasses ⟨advisory, hfirst, hlevel, fun entry hentry => ?_⟩
      exact absurd ⟨entry, of_firstException hentry⟩ hnone
    · exact hbehind advisory hmem hlevel hfirst

theorem map_find?_zipIdx {α : Type} (l : List α) (p : α → Bool) :
    (l.zipIdx.find? fun item => p item.1).map Prod.fst = l.find? p := by
  conv_rhs => rw [← List.zipIdx_map_fst 0 l, List.find?_map]
  rfl

/-- One advisory adds to what blocks or to what has expired exactly when its first exception
does not let it through. -/
theorem reviewAdvisory_clean (review : Review) (advisory : Advisory) :
    ((reviewAdvisory allowlist review advisory).blocking = [] ∧
        (reviewAdvisory allowlist review advisory).expired = 0) ↔
      (review.blocking = [] ∧ review.expired = 0) ∧
        ¬ ∀ entry ∈ firstException allowlist advisory, entry.expired = true := by
  rw [firstException, ← map_find?_zipIdx]
  unfold reviewAdvisory
  split
  next hfind => simp [hfind]
  next entry index hfind =>
    rw [hfind]
    cases hexpired : entry.expired with
    | true => simp [hexpired]
    | false => simp [hexpired]

/-- A review stays clean while every advisory has a first exception that has not expired. -/
theorem foldl_reviewAdvisory_clean (relevant : List Advisory) (review : Review) :
    ((relevant.foldl (reviewAdvisory allowlist) review).blocking = [] ∧
        (relevant.foldl (reviewAdvisory allowlist) review).expired = 0) ↔
      (review.blocking = [] ∧ review.expired = 0) ∧ ∀ advisory ∈ relevant,
        ¬ ∀ entry ∈ firstException allowlist advisory, entry.expired = true := by
  induction relevant generalizing review with
  | nil => simp
  | cons advisory relevant ih =>
    rw [List.foldl_cons, ih, reviewAdvisory_clean, List.forall_mem_cons, and_assoc]

/-- The gate ends with 1 when it refuses and with 0 otherwise. -/
theorem gate_exitCode (inActions : Bool) (options : Options) :
    let outcome := gate inActions options allowlist (records.foldl keep .empty).values
    outcome.exitCode = 1 ∧ Refused options.level allowlist records ∨
      outcome.exitCode = 0 ∧ ¬ Refused options.level allowlist records := by
  intro outcome
  have hclean := @foldl_reviewAdvisory_clean allowlist
    (relevantAdvisories options.level (records.foldl keep .empty).values) {}
  have hrefused : Refused options.level allowlist records ↔
      ¬ ∀ advisory ∈ relevantAdvisories options.level (records.foldl keep .empty).values,
        ¬ ∀ entry ∈ firstException allowlist advisory, entry.expired = true := by
    simp only [relevantAdvisories, List.mem_filter, mem_kept, decide_eq_true_eq]
    unfold Refused AtLevel
    push Not
    simp only [and_assoc]
  rw [hrefused]
  simp only [outcome, gate]
  split
  next hdirty =>
    refine .inl ⟨rfl, fun hall => ?_⟩
    obtain ⟨hblocking, hexpired⟩ := hclean.2 ⟨⟨rfl, rfl⟩, hall⟩
    rw [hblocking, hexpired] at hdirty
    exact absurd hdirty (by decide)
  next hnot =>
    refine .inr ⟨rfl, not_not_intro (hclean.1 ?_).2⟩
    rw [not_or, gt_iff_lt, gt_iff_lt, List.length_pos_iff, not_not, Nat.pos_iff_ne_zero,
      not_not] at hnot
    exact hnot

end Decision

/-! ## Other orders -/

/-- The two have the same properties but for one. -/
def SameElsewhere (key : String) (json json' : Json) : Prop :=
  ∀ other ≠ key, json'.field? other = json.field? other

/-- The entry with its `via` list in another order. -/
def ReorderedVias (entry entry' : String × Json) : Prop :=
  entry'.1 = entry.1 ∧ SameElsewhere "via" entry.2 entry'.2 ∧ ∃ vias vias' : List Json,
    entry.2.field? "via" = some (.array vias) ∧ entry'.2.field? "via" = some (.array vias') ∧
      vias.Perm vias'

/-- The entries in another order, and their `via` lists as well. -/
def ReorderedEntries (vulnerabilities vulnerabilities' : Vulnerabilities) : Prop :=
  ∃ middle, List.Forall₂ ReorderedVias vulnerabilities middle ∧ middle.Perm vulnerabilities'

/-- The run of `npm audit` with the entries of its report in another order. -/
def ReorderedReport (result result' : SpawnResult) : Prop :=
  ∃ report report' vulnerabilities vulnerabilities',
    result.stdout = some report ∧ result' = { result with stdout := some report' } ∧
    SameElsewhere "vulnerabilities" report report' ∧
    report.field? "vulnerabilities" = some (.object vulnerabilities) ∧
    report'.field? "vulnerabilities" = some (.object vulnerabilities') ∧
    ReorderedEntries vulnerabilities vulnerabilities'

/-- The file with its exceptions in another order. -/
inductive ReorderedFile : File → File → Prop where
  | same (file : File) : ReorderedFile file file
  | exceptions {xs ys : List Json} (h : xs.Perm ys) :
      ReorderedFile (some (.ok (.object [("exceptions", .array xs)])))
        (some (.ok (.object [("exceptions", .array ys)])))

/-- The same day, the allowlist and the report in another order. -/
structure Reordered (options : Options) (around around' : Surroundings) : Prop where
  now : around'.now = around.now
  file : ReorderedFile (around.file options.allowlist) (around'.file options.allowlist)
  report : ReorderedReport (around.npmAudit options.dir) (around'.npmAudit options.dir)

/-- The allowlist is valid and reads as these exceptions, and the report is well formed and
has these entries. -/
structure Valid (options : Options) (around : Surroundings) (allowlist : List AllowlistEntry)
    (vulnerabilities : Vulnerabilities) : Prop where
  allowlist : loadAllowlist options.allowlist (around.file options.allowlist) (isoDay around.now)
    (isoDay (around.now + maxExceptionDays * dayMs)) = .ok allowlist
  report : runAudit around.stringify (around.npmAudit options.dir) = .ok vulnerabilities
  wellFormed : WellFormed vulnerabilities

/-- An audit is read from a report of the second version whose total is right. -/
theorem runAudit_ok_iff {stringify : Json → String} {result : SpawnResult}
    {vulnerabilities : Vulnerabilities} :
    runAudit stringify result = .ok vulnerabilities ↔ result.error = none ∧ ∃ report,
      result.stdout = some report ∧ report.field? "error" = none ∧
      report.field? "auditReportVersion" = some (.number 2) ∧
      report.field? "vulnerabilities" = some (.object vulnerabilities) ∧
      total? report = some (.number vulnerabilities.length) := by
  constructor
  · intro h
    unfold runAudit at h
    split at h
    next => cases h
    next => cases h
    next report herror hstdout =>
      split at h
      next => cases h
      next =>
        split at h
        next => cases h
        next hnone =>
          split at h
          next version entries hversion hentries =>
            split at h
            next => cases h
            next htwo =>
              split at h
              next total htotal =>
                split at h
                next => cases h
                next hcount =>
                  cases h
                  rw [not_not.1 htwo] at hversion
                  rw [not_not.1 hcount] at htotal
                  exact ⟨herror, report, hstdout, hnone, hversion, hentries, htotal⟩
              next => cases h
          next => cases h
  · rintro ⟨herror, report, hstdout, hnone, hversion, hvulnerabilities, htotal⟩
    have hrecord : report.isRecord = true := by
      cases report with
      | object fields => rfl
      | _ => cases hversion
    simp [runAudit, herror, hstdout, hrecord, hnone, hversion, hvulnerabilities, htotal]

/-- What an entry has to be to load, whatever the messages call it. -/
theorem loadException_ok_iff {place today latestExpiry : String} {json : Json}
    {entry : AllowlistEntry} :
    loadException place today latestExpiry json = .ok entry ↔
      ∃ fields id pkg reason expires, json = .object fields ∧
        fields.find? (fun field => field.1 ∉ entryKeys) = none ∧
        json.field? "id" = some (.string id) ∧ (isGhsaId id ∨ isHttps id) ∧
        json.field? "package" = some (.string pkg) ∧ isNonEmptyString pkg ∧
        json.field? "reason" = some (.string reason) ∧
        (isNonEmptyString reason ∧ 20 ≤ utf16Length (jsTrim reason)) ∧
        json.field? "expires" = some (.string expires) ∧ isCalendarDate expires ∧
        ¬ latestExpiry < expires ∧
        entry = ⟨advisoryId id, pkg, jsTrim reason, expires, expires < today⟩ := by
  constructor
  · intro h
    unfold loadException at h
    split at h
    next fields =>
      split at h
      next => cases h
      next hkeys =>
        split at h
        next id hid =>
          split at h
          next => cases h
          next hform =>
            split at h
            next pkg hpkg =>
              split at h
              next => cases h
              next hpackage =>
                split at h
                next reason hreason =>
                  split at h
                  next => cases h
                  next hlong =>
                    split at h
                    next expires hexpires =>
                      split at h
                      next => cases h
                      next hdate =>
                        split at h
                        next => cases h
                        next hlatest =>
                          refine ⟨fields, id, pkg, reason, expires, rfl, hkeys, hid,
                            not_not.1 hform, hpkg, not_not.1 hpackage, hreason, ?_, hexpires,
                            not_not.1 hdate, hlatest, (Except.ok.inj h).symm⟩
                          simpa only [not_or, not_not, not_lt] using hlong
                    next => cases h
                next => cases h
            next => cases h
        next => cases h
    next => cases h
  · rintro ⟨fields, id, pkg, reason, expires, rfl, hkeys, hid, hform, hpkg, hpackage, hreason,
      ⟨htext, hlong⟩, hexpires, hdate, hlatest, rfl⟩
    unfold loadException
    dsimp only
    rw [hkeys, hid, hpkg, hreason, hexpires]
    dsimp only
    rw [if_neg (not_not_intro hform), if_neg (not_not_intro hpackage),
      if_neg (not_or.2 ⟨not_not_intro htext, hlong.not_gt⟩), if_neg (not_not_intro hdate),
      if_neg hlatest]

theorem mapM_zipIdx_ok_iff {α β ε : Type} {f : α × ℕ → Except ε β} {R : α → β → Prop}
    (hR : ∀ x n y, f (x, n) = .ok y ↔ R x y) (l : List α) (n : ℕ) (l' : List β) :
    (l.zipIdx n).mapM f = .ok l' ↔ List.Forall₂ R l l' := by
  induction l generalizing n l' with
  | nil =>
    rw [List.zipIdx_nil, List.mapM_nil, List.forall₂_nil_left_iff]
    exact ⟨fun h => (Except.ok.inj h).symm, fun h => h ▸ rfl⟩
  | cons x l ih =>
    rw [List.zipIdx_cons, List.mapM_cons, List.forall₂_cons_left_iff]
    constructor
    · intro h
      cases hx : f (x, n) with
      | error e =>
        rw [hx] at h
        cases h
      | ok y =>
        rw [hx] at h
        cases hl : (l.zipIdx (n + 1)).mapM f with
        | error e =>
          simp only [hl] at h
          cases h
        | ok ys =>
          simp only [hl] at h
          exact ⟨y, ys, (hR x n y).1 hx, (ih _ _).1 hl, (Except.ok.inj h).symm⟩
    · rintro ⟨y, ys, hxy, hl, rfl⟩
      rw [(hR x n y).2 hxy]
      exact congrArg (fun ys => ys >>= fun ys => Except.ok (y :: ys)) ((ih _ _).2 hl)

/-- A file in another order loads the same exceptions in that order. -/
theorem ReorderedFile.loadAllowlist {label today latestExpiry : String} {file file' : File}
    (hfile : ReorderedFile file file') {allowlist : List AllowlistEntry}
    (h : loadAllowlist label file today latestExpiry = .ok allowlist) :
    ∃ allowlist', AuditGate.loadAllowlist label file' today latestExpiry = .ok allowlist' ∧
      allowlist.Perm allowlist' := by
  cases hfile with
  | same => exact ⟨allowlist, h, .refl allowlist⟩
  | @exceptions xs ys hperm =>
    have hloads : ∀ l l', AuditGate.loadAllowlist label
        (some (.ok (.object [("exceptions", .array l)]))) today latestExpiry = .ok l' ↔
          List.Forall₂ (fun x y => loadException "" today latestExpiry x = .ok y) l l' :=
      fun l l' => mapM_zipIdx_ok_iff
        (fun _ _ _ => loadException_ok_iff.trans loadException_ok_iff.symm) l 0 l'
    obtain ⟨allowlist', hload, hallowlist⟩ :=
      List.perm_comp_forall₂ hperm.symm ((hloads xs allowlist).1 h)
    exact ⟨allowlist', (hloads ys allowlist').2 hload, hallowlist.symm⟩

section Reorder

variable {vulnerabilities vulnerabilities' middle : Vulnerabilities}

theorem WellFormedVia.subset {via : Json} (h : WellFormedVia vulnerabilities via)
    (hkeys : vulnerabilities.map Prod.fst ⊆ vulnerabilities'.map Prod.fst) :
    WellFormedVia vulnerabilities' via :=
  h.imp (fun ⟨other, htext, hmem⟩ => ⟨other, htext, hkeys hmem⟩) id

/-- Reordered vias are the same vias. -/
theorem ReorderedVias.perm {entry entry' : String × Json} (h : ReorderedVias entry entry') :
    (viasOf entry.2).Perm (viasOf entry'.2) := by
  obtain ⟨-, -, vias, vias', hvias, hvias', hperm⟩ := h
  rwa [viasOf, viasOf, hvias, hvias']

theorem exists_of_mem_forall₂ (h : List.Forall₂ ReorderedVias vulnerabilities middle)
    {entry' : String × Json} (hmem : entry' ∈ middle) :
    ∃ entry ∈ vulnerabilities, ReorderedVias entry entry' := by
  induction h with
  | nil => cases hmem
  | @cons entry _ entries _ hentry _ ih =>
    rcases List.mem_cons.1 hmem with rfl | hmem
    · exact ⟨entry, List.mem_cons_self, hentry⟩
    · obtain ⟨found, hfound, hreordered⟩ := ih hmem
      exact ⟨found, List.mem_cons_of_mem entry hfound, hreordered⟩

theorem map_fst_of_forall₂ (h : List.Forall₂ ReorderedVias vulnerabilities middle) :
    middle.map Prod.fst = vulnerabilities.map Prod.fst := by
  induction h with
  | nil => rfl
  | cons hentry _ ih => rw [List.map_cons, List.map_cons, hentry.1, ih]

theorem records_perm_of_forall₂ (h : List.Forall₂ ReorderedVias vulnerabilities middle) :
    (records vulnerabilities).Perm (records middle) := by
  induction h with
  | nil => exact .refl []
  | cons hentry _ ih => exact (hentry.perm.filterMap advisory?).append ih

namespace ReorderedEntries

theorem keys_perm (h : ReorderedEntries vulnerabilities vulnerabilities') :
    (vulnerabilities.map Prod.fst).Perm (vulnerabilities'.map Prod.fst) := by
  obtain ⟨middle, hvias, hperm⟩ := h
  exact map_fst_of_forall₂ hvias ▸ hperm.map Prod.fst

/-- Reordered entries have the same records. -/
theorem records_perm (h : ReorderedEntries vulnerabilities vulnerabilities') :
    (records vulnerabilities).Perm (records vulnerabilities') := by
  obtain ⟨middle, hvias, hperm⟩ := h
  exact (records_perm_of_forall₂ hvias).trans (hperm.flatMap_right _)

/-- And they are as well formed. -/
theorem wellFormed (h : ReorderedEntries vulnerabilities vulnerabilities')
    (hwell : WellFormed vulnerabilities) : WellFormed vulnerabilities' := by
  have hkeys := h.keys_perm.subset
  obtain ⟨middle, hvias, hperm⟩ := h
  intro entry' hentry'
  obtain ⟨entry, hentry, -, -, vias, vias', hlist, hlist', hvia⟩ :=
    exists_of_mem_forall₂ hvias (hperm.mem_iff.2 hentry')
  obtain ⟨vias₀, hlist₀, hne, hall⟩ := hwell entry hentry
  obtain rfl : vias = vias₀ := by
    rw [hlist] at hlist₀
    cases hlist₀
    rfl
  refine ⟨vias', hlist', fun hnil => hne (hnil ▸ hvia).eq_nil, fun via hmem => ?_⟩
  exact (hall via (hvia.mem_iff.2 hmem)).subset hkeys

theorem refl (hwell : WellFormed vulnerabilities) :
    ReorderedEntries vulnerabilities vulnerabilities := by
  refine ⟨vulnerabilities, List.forall₂_same.2 fun entry hentry => ?_, .refl _⟩
  obtain ⟨vias, hvias, -, -⟩ := hwell entry hentry
  exact ⟨rfl, fun _ _ => rfl, vias, vias, hvias, hvias, .refl vias⟩

end ReorderedEntries

theorem total?_of_sameElsewhere {report report' : Json}
    (h : SameElsewhere "vulnerabilities" report report') : total? report' = total? report := by
  rw [total?, total?, h "metadata" (by decide)]

/-- A reordered report is read with its entries reordered. -/
theorem ReorderedReport.runAudit {stringify stringify' : Json → String}
    {result result' : SpawnResult} (h : ReorderedReport result result')
    (hrun : runAudit stringify result = .ok vulnerabilities) :
    ∃ vulnerabilities', AuditGate.runAudit stringify' result' = .ok vulnerabilities' ∧
      ReorderedEntries vulnerabilities vulnerabilities' := by
  obtain ⟨report, report', entries, entries', hreport, rfl, hsame, hentries, hentries', horder⟩ := h
  obtain ⟨herror, report₀, hreport₀, hnone, hversion, hvulnerabilities, htotal⟩ :=
    runAudit_ok_iff.1 hrun
  obtain rfl : report = report₀ := Option.some.inj (hreport.symm.trans hreport₀)
  obtain rfl : entries = vulnerabilities := by
    rw [hentries] at hvulnerabilities
    cases hvulnerabilities
    rfl
  refine ⟨entries', runAudit_ok_iff.2 ⟨herror, report', rfl, ?_, ?_, hentries', ?_⟩, horder⟩
  · rw [hsame "error" (by decide), hnone]
  · rw [hsame "auditReportVersion" (by decide), hversion]
  · have hlength := horder.keys_perm.length_eq
    rw [List.length_map, List.length_map] at hlength
    rw [total?_of_sameElsewhere hsame, htotal, hlength]

variable {options : Options} {around around' : Surroundings} {allowlist : List AllowlistEntry}

/-- A valid input in another order is valid, with the same exceptions and records. -/
theorem Valid.reordered (h : Valid options around allowlist vulnerabilities)
    (horder : Reordered options around around') :
    ∃ allowlist' vulnerabilities', Valid options around' allowlist' vulnerabilities' ∧
      allowlist.Perm allowlist' ∧ (records vulnerabilities).Perm (records vulnerabilities') := by
  obtain ⟨allowlist', hload, hallowlist⟩ := horder.file.loadAllowlist h.allowlist
  obtain ⟨vulnerabilities', hrun, hentries⟩ := horder.report.runAudit h.report
  refine ⟨allowlist', vulnerabilities', ⟨?_, hrun, hentries.wellFormed h.wellFormed⟩, hallowlist,
    hentries.records_perm⟩
  rwa [horder.now]

theorem Valid.refl (h : Valid options around allowlist vulnerabilities) :
    Reordered options around around := by
  obtain ⟨-, report, hreport, -, -, hvulnerabilities, -⟩ := runAudit_ok_iff.1 h.report
  refine ⟨rfl, .same _, report, report, vulnerabilities, vulnerabilities, hreport, ?_,
    fun _ _ => rfl, hvulnerabilities, hvulnerabilities, .refl h.wellFormed⟩
  rw [← hreport]

/-- The input tells what is reviewed. -/
theorem Valid.unique {allowlist' : List AllowlistEntry}
    (h : Valid options around allowlist vulnerabilities)
    (h' : Valid options around allowlist' vulnerabilities') :
    allowlist' = allowlist ∧ vulnerabilities' = vulnerabilities :=
  ⟨Except.ok.inj (h'.allowlist.symm.trans h.allowlist),
    Except.ok.inj (h'.report.symm.trans h.report)⟩

/-- On a valid input the gate exits with 1 if the review refuses, and with 0 otherwise. -/
theorem main_exitCode {argv : List String} (hargs : parseArgs argv = .ok options)
    (h : Valid options around allowlist vulnerabilities) :
    (main around argv).exitCode = 1 ∧ Refused options.level allowlist (records vulnerabilities) ∨
      (main around argv).exitCode = 0 ∧
        ¬ Refused options.level allowlist (records vulnerabilities) := by
  have hcheck : check around argv = .ok (gate around.inActions options allowlist
      ((records vulnerabilities).foldl keep .empty).values) := by
    simp only [check, hargs, bind, Except.bind, h.allowlist, h.report,
      collectAdvisories_of_wellFormed h.wellFormed]
    rfl
  rw [main, hcheck]
  exact gate_exitCode around.inActions options

end Reorder

/-- The gate passes exactly when every record at or above the level is excused. -/
def Accurate (options : Options) (around : Surroundings) (argv : List String)
    (allowlist : List AllowlistEntry) (vulnerabilities : Vulnerabilities) : Prop :=
  (main around argv).exitCode = 0 ↔
    EveryRecordExcused options.level allowlist (records vulnerabilities)

/-- The gate is accurate on what it looks at closely enough. -/
theorem accurate_iff {options : Options} {around : Surroundings} {argv : List String}
    {allowlist : List AllowlistEntry} {vulnerabilities : Vulnerabilities}
    (hargs : parseArgs argv = .ok options)
    (h : Valid options around allowlist vulnerabilities) :
    Accurate options around argv allowlist vulnerabilities ↔
      LooksAtEnough options.level allowlist (records vulnerabilities) := by
  rw [← not_refused_iff, Accurate]
  rcases main_exitCode hargs h with ⟨hcode, hrefused⟩ | ⟨hcode, hrefused⟩
  · simp [hcode, hrefused]
  · simp [hcode, hrefused]

/-- The gate decides as it should exactly when what it looks at is enough, and its decision
is right and the same in every order exactly when that is so in every order. -/
theorem gate_accurate {argv : List String} {options : Options}
    (hargs : parseArgs argv = .ok options) {around : Surroundings}
    {allowlist : List AllowlistEntry} {vulnerabilities : Vulnerabilities}
    (hvalid : Valid options around allowlist vulnerabilities) :
    (Accurate options around argv allowlist vulnerabilities ↔
      LooksAtEnough options.level allowlist (records vulnerabilities)) ∧
    ((Accurate options around argv allowlist vulnerabilities ∧
        ∀ around', Reordered options around around' →
          (main around' argv).exitCode = (main around argv).exitCode) ↔
      ∀ around' allowlist' vulnerabilities', Reordered options around around' →
        Valid options around' allowlist' vulnerabilities' →
        LooksAtEnough options.level allowlist' (records vulnerabilities')) := by
  refine ⟨accurate_iff hargs hvalid, fun ⟨haccurate, hsame⟩ => ?_, fun henough => ?_⟩
  · intro around' allowlist' vulnerabilities' horder hvalid'
    obtain ⟨allowlist₁, vulnerabilities₁, hvalid₁, hallowlist, hrecords⟩ := hvalid.reordered horder
    obtain ⟨rfl, rfl⟩ := hvalid₁.unique hvalid'
    rw [← accurate_iff hargs hvalid', Accurate, hsame around' horder,
      ← EveryRecordExcused.perm hallowlist hrecords]
    exact haccurate
  · have haccurate : Accurate options around argv allowlist vulnerabilities :=
      (accurate_iff hargs hvalid).2 (henough around allowlist vulnerabilities hvalid.refl hvalid)
    refine ⟨haccurate, fun around' horder => ?_⟩
    obtain ⟨allowlist', vulnerabilities', hvalid', hallowlist, hrecords⟩ := hvalid.reordered horder
    have haccurate' := (accurate_iff hargs hvalid').2 (henough around' _ _ horder hvalid')
    have hzero : (main around' argv).exitCode = 0 ↔ (main around argv).exitCode = 0 :=
      haccurate'.trans ((EveryRecordExcused.perm hallowlist hrecords).symm.trans haccurate.symm)
    rcases main_exitCode hargs hvalid with ⟨hcode, -⟩ | ⟨hcode, -⟩
    · rcases main_exitCode hargs hvalid' with ⟨hcode', -⟩ | ⟨hcode', -⟩
      · rw [hcode, hcode']
      · exact absurd (hzero.1 hcode') (by rw [hcode]; decide)
    · rw [hcode, hzero.2 hcode]

/-- A record about one package with one advisory. -/
def lodashVia (severity : String) : Json :=
  .object [("name", .string "lodash"), ("severity", .string severity),
    ("url", .string "https://github.com/advisories/GHSA-2222-3333-4444")]

/-- A report on one package. -/
def lodashEntries (severities : List String) : Vulnerabilities :=
  [("lodash", .object [("via", .array (severities.map lodashVia))])]

def lodashException (expires : String) : Json :=
  .object [("id", .string "GHSA-2222-3333-4444"), ("package", .string "lodash"),
    ("reason", .string "the server never calls it"), ("expires", .string expires)]

def lodashFile (expires : List String) : File :=
  some (.ok (.object [("exceptions", .array (expires.map lodashException))]))

/-- Noon on 2026-09-21, with this allowlist and records of these severities. -/
def lodash (file : File) (severities : List String) : Surroundings where
  inActions := false
  now := 1789992000000
  file _ := file
  npmAudit _ :=
    { error := none
      status := some 1
      stdout := some (.object [("auditReportVersion", .number 2),
        ("vulnerabilities", .object (lodashEntries severities)),
        ("metadata", .object [("vulnerabilities", .object [("total", .number 1)])])])
      stderr := "" }
  stringify _ := ""

def lodashAllowed (expires : String) (expired : Bool) : AllowlistEntry :=
  ⟨"GHSA-2222-3333-4444", "lodash", "the server never calls it", expires, expired⟩

theorem lodash_valid {file : File} {allowlist : List AllowlistEntry} {severities : List String}
    (hload : loadAllowlist "audit-allowlist.json" file (isoDay 1789992000000)
      (isoDay (1789992000000 + maxExceptionDays * dayMs)) = .ok allowlist)
    (hwell : WellFormed (lodashEntries severities)) :
    Valid {} (lodash file severities) allowlist (lodashEntries severities) :=
  ⟨hload, rfl, hwell⟩

theorem lodash_reordered {file file' : File} (hfile : ReorderedFile file file')
    {severities severities' : List String} (hperm : severities.Perm severities') :
    Reordered {} (lodash file severities) (lodash file' severities') where
  now := rfl
  file := hfile
  report := by
    refine ⟨_, _, _, lodashEntries severities', rfl, rfl, fun other hother => ?_, rfl, rfl,
      lodashEntries severities',
      .cons ⟨rfl, fun other hother => ?_, _, _, rfl, rfl, hperm.map lodashVia⟩ .nil, .refl _⟩
    · by_cases h : other = "auditReportVersion"
      · rw [h]
        rfl
      · simp [Json.field?, List.lookup_cons, beq_eq_false_iff_ne.2 hother,
          beq_eq_false_iff_ne.2 h]
    · simp [Json.field?, List.lookup_cons, beq_eq_false_iff_ne.2 hother]

theorem gate_accurate_lodash :
    Accurate {} (lodash none ["high", "low"]) [] [] (lodashEntries ["high", "low"]) :=
  (gate_accurate rfl (lodash_valid rfl (collectAdvisories_ok_iff.1 ⟨_, rfl⟩))).1.2
    (.inl ⟨⟨"GHSA-2222-3333-4444", "lodash", "high", "(no title)",
      "https://github.com/advisories/GHSA-2222-3333-4444"⟩, by decide +kernel, by decide +kernel,
      nofun⟩)

/-- A record that is rated low in front of the same one rated high passes, a live exception in
front of an expired one passes, and both fail the other way around. -/
theorem gate_overlooks :
    (Valid {} (lodash none ["low", "high"]) [] (lodashEntries ["low", "high"]) ∧
      (main (lodash none ["low", "high"]) []).exitCode = 0 ∧
      ¬ EveryRecordExcused "high" [] (records (lodashEntries ["low", "high"])) ∧
      Reordered {} (lodash none ["low", "high"]) (lodash none ["high", "low"]) ∧
      (main (lodash none ["high", "low"]) []).exitCode = 1) ∧
    ∃ allowlist, Valid {} (lodash (lodashFile ["2026-10-01", "2026-01-01"]) ["high"]) allowlist
        (lodashEntries ["high"]) ∧
      (main (lodash (lodashFile ["2026-10-01", "2026-01-01"]) ["high"]) []).exitCode = 0 ∧
      ¬ EveryRecordExcused "high" allowlist (records (lodashEntries ["high"])) ∧
      Reordered {} (lodash (lodashFile ["2026-10-01", "2026-01-01"]) ["high"])
        (lodash (lodashFile ["2026-01-01", "2026-10-01"]) ["high"]) ∧
      (main (lodash (lodashFile ["2026-01-01", "2026-10-01"]) ["high"]) []).exitCode = 1 := by
  constructor
  · refine ⟨lodash_valid rfl (collectAdvisories_ok_iff.1 ⟨_, rfl⟩), by decide +kernel,
      by decide +kernel, lodash_reordered (.same none) (.swap "high" "low" []),
      by decide +kernel⟩
  · refine ⟨[lodashAllowed "2026-10-01" false, lodashAllowed "2026-01-01" true],
      lodash_valid (by decide +kernel) (collectAdvisories_ok_iff.1 ⟨_, rfl⟩), by decide +kernel,
      by decide +kernel, lodash_reordered (.exceptions (.swap _ _ [])) (.refl _),
      by decide +kernel⟩

end AuditGate

end QrlBackend
