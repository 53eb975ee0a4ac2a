import Provision.Proofs.Files
import Provision.Proofs.SecurityGroups.Listing
import Provision.Proofs.SecurityGroups.Report
import Provision.Proofs.Session.Files
import Provision.Proofs.Session.InFlight

/-!
# Entries of listed groups

A group has an entry if and only if the text of its project spells an integer (`Described`,
`Text.Decimal.readInt64_eq_ok_iff`). The uses of the listed groups are asked for several at a time. If the vendor's
answers to these questions depend on their bodies only (`Vendor.Counts`), each group ends as it does alone (`Counted`),
and the entries are those of the groups one after the other: which question is answered first does not matter, and the
first group in the listing that fails decides the failure. The file of a query is written only if every group has its
entry, and its text stands for exactly these entries. Main statement: `read_queried`.
-/

namespace Provision

/-! ## Projects -/

namespace Text.Decimal

/-- **A text spells an integer of 64 bits**: it consists of digits, after a sign or not. -/
def Spells (s : List Char) (i : Int) : Prop :=
  minInt64 ≤ i ∧ i ≤ maxInt64 ∧ ∃ digits : List Char, digits ≠ [] ∧ (∀ c ∈ digits, c.isDigit = true) ∧
    ((s = digits ∨ s = '+' :: digits) ∧ i = (Nat.ofDigitChars 10 digits 0 : Nat) ∨
      s = '-' :: digits ∧ i = -(Nat.ofDigitChars 10 digits 0 : Nat))

/-- Digits are read as their value, if that is within the limit. -/
theorem readDigits_eq_ok_iff {limit : Nat} {beyond : Fault} {s : List Char} {value n : Nat} (hvalue : value ≤ limit) :
    readDigits limit beyond value s = .ok n ↔
      (∀ c ∈ s, c.isDigit = true) ∧ n = Nat.ofDigitChars 10 s value ∧ n ≤ limit := by
  refine ⟨fun h => ?_, fun ⟨hdigits, hn, hle⟩ => hn ▸ readDigits_of_le hdigits (hn ▸ hle)⟩
  induction s generalizing value with
  | nil =>
    cases h
    exact ⟨by simp, rfl, hvalue⟩
  | cons c rest ih =>
    rw [readDigits, digit?] at h
    by_cases hc : c.isDigit = true
    · simp only [hc, if_true] at h
      split at h
      · cases h
      · rename_i hle
        obtain ⟨hdigits, hn, hlimit⟩ := ih (Nat.not_lt.1 hle) h
        refine ⟨fun d hd => ?_, ?_, hlimit⟩
        · rcases List.mem_cons.1 hd with rfl | hd
          · exact hc
          · exact hdigits d hd
        · rw [hn, Nat.ofDigitChars_cons, Nat.mul_comm 10 value]
    · simp [hc] at h

/-- What is read after a sign, or without one, is the value of the digits with that sign. -/
theorem map_readDigits_eq_ok_iff {limit : Nat} {beyond : Fault} {s : List Char} {sign : Nat → Int} {i : Int} :
    sign <$> readDigits limit beyond 0 s = .ok i ↔
      (∀ c ∈ s, c.isDigit = true) ∧ i = sign (Nat.ofDigitChars 10 s 0) ∧ Nat.ofDigitChars 10 s 0 ≤ limit := by
  constructor
  · intro h
    cases hread : readDigits limit beyond 0 s with
    | error why =>
      rw [hread] at h
      cases h
    | ok n =>
      rw [hread] at h
      cases h
      obtain ⟨hdigits, rfl, hle⟩ := (readDigits_eq_ok_iff (Nat.zero_le limit)).1 hread
      exact ⟨hdigits, rfl, hle⟩
  · rintro ⟨hdigits, rfl, hle⟩
    rw [readDigits_of_le hdigits hle]
    rfl

theorem Spells.of_read {s : List Char} {i : Int} (h : readInt64 s = .ok i) : Spells s i := by
  obtain ⟨hmin, hmax⟩ := range_of_readInt64 h
  refine ⟨hmin, hmax, ?_⟩
  unfold readInt64 at h
  split at h
  · cases h
  · cases h
  · cases h
  · rename_i rest hne
    obtain ⟨hdigits, hi, -⟩ := map_readDigits_eq_ok_iff.1 h
    exact ⟨rest, fun hnil => hne (by rw [hnil]), hdigits, .inl ⟨.inr rfl, hi⟩⟩
  · rename_i rest hne
    obtain ⟨hdigits, hi, -⟩ := map_readDigits_eq_ok_iff.1 h
    exact ⟨rest, fun hnil => hne (by rw [hnil]), hdigits, .inr ⟨rfl, hi⟩⟩
  · rename_i hne _ _ _ _
    obtain ⟨hdigits, hi, -⟩ := map_readDigits_eq_ok_iff.1 h
    exact ⟨s, hne, hdigits, .inl ⟨.inl rfl, hi⟩⟩

/-- A text without a sign is read as its digits. -/
theorem readInt64_of_digits {s : List Char} (hne : s ≠ []) (hdigits : ∀ c ∈ s, c.isDigit = true) :
    readInt64 s = Int.ofNat <$> readDigits maxInt64.toNat .aboveRange 0 s := by
  unfold readInt64
  split
  · exact absurd rfl hne
  all_goals first
    | rfl
    | exact absurd (hdigits _ List.mem_cons_self) (by decide)

/-- A text with a sign is read as the digits after it. -/
theorem readInt64_plus {rest : List Char} (hne : rest ≠ []) :
    readInt64 ('+' :: rest) = Int.ofNat <$> readDigits maxInt64.toNat .aboveRange 0 rest := by
  cases rest with
  | nil => exact absurd rfl hne
  | cons c rest => rfl

@[inherit_doc readInt64_plus]
theorem readInt64_minus {rest : List Char} (hne : rest ≠ []) :
    readInt64 ('-' :: rest) = (fun n => -Int.ofNat n) <$> readDigits minInt64.natAbs .belowRange 0 rest := by
  cases rest with
  | nil => exact absurd rfl hne
  | cons c rest => rfl

/-- **An integer is read from a text if and only if the text spells it.** -/
theorem readInt64_eq_ok_iff {s : List Char} {i : Int} : readInt64 s = .ok i ↔ Spells s i := by
  refine ⟨Spells.of_read, fun ⟨hmin, hmax, digits, hne, hdigits, hs⟩ => ?_⟩
  simp only [minInt64, maxInt64] at hmin hmax
  have hlimits : maxInt64.toNat = 9223372036854775807 ∧ minInt64.natAbs = 9223372036854775808 := by decide
  rcases hs with ⟨rfl | rfl, hi⟩ | ⟨rfl, hi⟩
  · rw [readInt64_of_digits hne hdigits]
    exact map_readDigits_eq_ok_iff.2 ⟨hdigits, hi, by omega⟩
  · rw [readInt64_plus hne]
    exact map_readDigits_eq_ok_iff.2 ⟨hdigits, hi, by omega⟩
  · rw [readInt64_minus hne]
    exact map_readDigits_eq_ok_iff.2 ⟨hdigits, hi, by omega⟩

end Text.Decimal

namespace Vendor

/-- The body of the question about the uses of a group. -/
def usageQuestion (id : String) : Json := .ofMembers [("SecurityGroupIds", .array [.string id])]

/-- **A vendor that counts the uses of groups**: what it answers depends on the body of the question only. -/
def Counts (out : Surroundings) (told : Json → Except Failure (List Usage)) : Prop :=
  ∀ earlier x, x.action = "DescribeSecurityGroupAssociationStatistics" →
    (⟨x, out.reply earlier x⟩ : Exchange).outcome usages = told x.body

end Vendor

namespace Provider

open Vendor

variable {p : Provider} {f : GroupFilter} {groups : List ListedGroup} {s : Session}
  {told : Json → Except Failure (List Usage)}

/-- A listing that gives groups has sent a request. -/
theorem posting_of_listing (h : (p.listing f s).1 = .ok groups) :
    ∃ body timestamp x, p.client.posting .vpc "DescribeSecurityGroups" body timestamp = .ok x := by
  obtain ⟨repeated, begun, hproceeds⟩ := Run.attempts_proceeds p.out p.read "DescribeSecurityGroups" (p.listGroups f)
    s.now 1 p.read.initialDelay s
  have hpass : (p.listGroups f (begun repeated)).1 = .ok groups := by
    rcases hproceeds.concludes with ⟨-, hlast⟩ | ⟨e, -, -, -, hlast⟩
    · rw [← hlast]
      exact h
    · have hlate := (congrArg Prod.fst hlast).symm.trans h
      cases hlate
  cases hx : p.client.posting .vpc "DescribeSecurityGroups" (f.body 0)
      ((p.paced "DescribeSecurityGroups" (begun repeated)).second p.out) with
  | ok x => exact ⟨_, _, x, hx⟩
  | error e =>
    have hpage : p.groupPage f 0 (begun repeated) = (.error e, (p.groupPage f 0 (begun repeated)).2) :=
      Prod.ext (invoke_of_error Vendor.groupPage hx).1 rfl
    rw [listGroups, groupsFrom_of_error hpage] at hpass
    cases hpass

/-- The answer to a question about the uses of a group, as attempts hand it on. -/
theorem describeUsage_handedOn (h : Counts p.out told)
    (hsent : ∀ body timestamp, ∃ x,
      p.client.posting .vpc "DescribeSecurityGroupAssociationStatistics" body timestamp = .ok x)
    (id : String) (s : Session) :
    Run.HandedOn p.read "DescribeSecurityGroupAssociationStatistics" (told (usageQuestion id))
      (p.describeUsage id s).1 := by
  refine Run.retried_of_constant (fun t => ?_) p.out p.read _ s
  obtain ⟨x, hx⟩ := hsent (usageQuestion id)
    ((p.paced "DescribeSecurityGroupAssociationStatistics" t).second p.out)
  have hasks := Client.asks_of_posting hx (p.out.reply t.exchanges x)
  have houtcome := h t.exchanges x hasks.1
  rw [hasks.2] at houtcome
  exact (invoke_of_posting usages hx).1.trans houtcome

end Provider

namespace SecurityGroups

open Vendor Run

variable {p : Provider} {q : Query} {g : ListedGroup} {groups : List ListedGroup} {s : Session}
  {told : Json → Except Failure (List Usage)} {uses : List Usage} {b : Entry}

/-! ## One group -/

/-- **An entry describes a group**: its texts are those of the listing, its project is the number that the listing
writes, and its uses are those of the first count that is about the group. -/
structure Describes (g : ListedGroup) (uses : List Usage) (b : Entry) : Prop where
  id : b.id = g.id.getD ""
  name : b.name = g.name.getD ""
  description : b.description = g.description.getD ""
  createTime : b.createTime = g.createdTime.getD ""
  projectId : Text.Decimal.Spells (g.projectId.getD "").toList b.projectId
  useCount : b.useCount =
    match uses.find? fun u => u.id == some b.id with
    | some u => u.machines + u.interfaces + u.databases + u.balancers
    | none => 0

/-- **What becomes of a group whose uses are counted**: an entry that describes it, or, if its project is no integer, a
failure that names the group and says why. -/
inductive Described (g : ListedGroup) (uses : List Usage) : Except Failure Entry → Prop
  | entry (b : Entry) (describes : Describes g uses b) : Described g uses (.ok b)
  | projectless (why : Text.Decimal.Fault) (none : ∀ i, ¬Text.Decimal.Spells (g.projectId.getD "").toList i)
      (fault : Text.Decimal.readInt64 (g.projectId.getD "").toList = .error why) :
      Described g uses (.error (.invalid (.projectId (g.id.getD "") why)))

theorem useCount_eq (id : String) (uses : List Usage) : useCount id uses =
    match uses.find? fun u => u.id == some id with
    | some u => u.machines + u.interfaces + u.databases + u.balancers
    | none => 0 := by
  unfold useCount
  cases uses.find? fun u => u.id == some id with
  | none => rfl
  | some u => rfl

theorem described_entry (g : ListedGroup) (uses : List Usage) :
    Described g uses (entry g (useCount (g.id.getD "") uses)) := by
  unfold entry
  cases hproject : Text.Decimal.readInt64 (g.projectId.getD "").toList with
  | ok project =>
    exact .entry _ ⟨rfl, rfl, rfl, rfl, Text.Decimal.readInt64_eq_ok_iff.1 hproject, useCount_eq _ _⟩
  | error why =>
    refine .projectless why (fun i hi => ?_) hproject
    rw [Text.Decimal.readInt64_eq_ok_iff.2 hi] at hproject
    cases hproject

/-- **There is one way only in which a group can end.** -/
theorem described_iff {r : Except Failure Entry} :
    Described g uses r ↔ r = entry g (useCount (g.id.getD "") uses) := by
  refine ⟨fun h => ?_, fun h => h ▸ described_entry g uses⟩
  cases h with
  | entry b describes =>
    obtain ⟨id, name, description, createTime, count, project⟩ := b
    obtain ⟨rfl, rfl, rfl, rfl, hproject, hcount⟩ := describes
    dsimp only at hproject hcount
    rw [entry, Text.Decimal.readInt64_eq_ok_iff.2 hproject, hcount, useCount_eq]
  | projectless why none fault => rw [entry, fault]

/-- **How a group ends**: the vendor does not count its uses, and that failure is handed on, or it does. -/
inductive Counted (p : Provider) (told : Json → Except Failure (List Usage)) (g : ListedGroup) :
    Except Failure Entry → Prop
  | uncounted (e : Failure) (handed : HandedOn p.read "DescribeSecurityGroupAssociationStatistics"
      (told (usageQuestion (g.id.getD ""))) (.error e)) : Counted p told g (.error e)
  | counted (uses : List Usage) (r : Except Failure Entry) (answer : told (usageQuestion (g.id.getD "")) = .ok uses)
      (described : Described g uses r) : Counted p told g r

/-- A group of which the uses are counted ends as they say. -/
theorem Counted.eq_of_told {r : Except Failure Entry} (h : Counted p told g r)
    (htold : told (usageQuestion (g.id.getD "")) = .ok uses) : r = entry g (useCount (g.id.getD "") uses) := by
  cases h with
  | uncounted e handed =>
    rw [htold] at handed
    cases handed with
    | late e elapsed heq => cases heq
  | counted uses' r answer described =>
    rw [htold] at answer
    cases answer
    exact described_iff.1 described

theorem enrich_counted (h : Counts p.out told)
    (hsent : ∀ body timestamp, ∃ x,
      p.client.posting .vpc "DescribeSecurityGroupAssociationStatistics" body timestamp = .ok x)
    (g : ListedGroup) (s : Session) : Counted p told g (enrich p g s).1 := by
  have hasked := p.describeUsage_handedOn h hsent (g.id.getD "") s
  rcases hd : p.describeUsage (g.id.getD "") s with ⟨r, t⟩
  rw [hd] at hasked
  cases r with
  | error e =>
    rw [enrich, bind_error hd]
    exact .uncounted e hasked
  | ok uses =>
    rw [enrich, bind_ok hd]
    exact .counted uses _ hasked.eq_of_ok (described_entry g uses)

theorem enrich_keepsFiles (p : Provider) (g : ListedGroup) : (enrich p g).KeepsFiles :=
  (p.ask_keepsFiles (p.invoke_keepsFiles _ _ _ _) _).bind fun _ => keepsFiles_ofExcept _

/-! ## All groups -/

/-- **The entries of a listing come as if they were asked for one after the other.** -/
theorem entries_inOrder (h : Counts p.out told) {f : GroupFilter} {s' : Session}
    (hlisted : (p.listing f s').1 = .ok groups) (s : Session) :
    InOrder (Counted p told) groups (inFlight p.out (enrich p) groups s).1 := by
  obtain ⟨body, timestamp, x, hx⟩ := Provider.posting_of_listing hlisted
  have hsent := fun body' timestamp' => Client.posting_of_posting hx
    (show Client.isHeaderValue "DescribeSecurityGroupAssociationStatistics" = true by decide) body' timestamp'
  exact inFlight_inOrder (fun g t => enrich_counted h hsent g t) p.out groups s

/-! ## Queries -/

/-- The text of a report on groups. -/
def report (q : Query) (entries : List Entry) : String := (Result.list ⟨q.identity, entries⟩).pretty

/-- **How a query ends whose groups are listed**: without an entry for some group it fails as the first such group does,
and leaves the files alone; otherwise its result has one entry for each group, and if a file is named the text of this
file stands for these entries, or the file cannot be written. -/
inductive Ends (p : Provider) (told : Json → Except Failure (List Usage)) (q : Query) (groups : List ListedGroup)
    (files : Files) : Except Failure Result → Files → Prop
  | failed (e : Failure) (first : InOrder (Counted p told) groups (.error e)) :
      Ends p told q groups files (.error e) files
  | shown (entries : List Entry) (all : InOrder (Counted p told) groups (.ok entries)) (nowhere : q.output? = none) :
      Ends p told q groups files (.ok ⟨q.identity, entries⟩) files
  | saved (entries : List Entry) (all : InOrder (Counted p told) groups (.ok entries)) (path : String) (after : Files)
      (somewhere : q.output? = some path) (saves : files.save path (report q entries) = (after, true))
      (reads : after.read? path = some (report q entries))
      (decodes : (∀ b ∈ entries, b.useCount ≤ Text.Decimal.maxNat64) →
        entriesOf? (report q entries) = some entries) :
      Ends p told q groups files (.ok ⟨q.identity, entries⟩) after
  | unwritten (entries : List Entry) (all : InOrder (Counted p told) groups (.ok entries)) (path : String)
      (after : Files) (somewhere : q.output? = some path)
      (saves : files.save path (report q entries) = (after, false)) :
      Ends p told q groups files (.error (.unwritten path "the file cannot be written")) after

theorem fits_of_counted (h : Counted p told g (.ok b)) (hcount : b.useCount ≤ Text.Decimal.maxNat64) : b.Fits := by
  cases h with
  | counted uses r answer described =>
    cases described with
    | entry b describes => exact ⟨hcount, describes.projectId.1, describes.projectId.2.1⟩

theorem entriesOf?_report {entries : List Entry} (h : InOrder (Counted p told) groups (.ok entries))
    (hcounts : ∀ b ∈ entries, b.useCount ≤ Text.Decimal.maxNat64) (q : Query) :
    entriesOf? (report q entries) = some entries := by
  refine entriesOf?_list fun b hb => ?_
  obtain ⟨g, -, hg⟩ := h.exists_of_mem hb
  exact fits_of_counted hg (hcounts b hb)

theorem listing_keepsFiles (p : Provider) (f : GroupFilter) : (p.listing f).KeepsFiles := by
  have hpage : ∀ offset, (p.groupPage f offset).Along Session.SameFiles := fun offset =>
    keepsFiles_iff.1 (p.invoke_keepsFiles .vpc "DescribeSecurityGroups" (f.body offset) Vendor.groupPage)
  exact p.ask_keepsFiles (keepsFiles_iff.2 (Provider.along_groupsFrom hpage 0)) _

/-- What is gathered if the groups are listed. -/
theorem gather_of_listed (h : Counts p.out told) (hlisted : (p.listing q.filter s).1 = .ok groups) :
    (∃ e t, gather p q s = (.error e, t) ∧ t.files = s.files ∧ InOrder (Counted p told) groups (.error e)) ∨
      ∃ entries t, gather p q s = (.ok ⟨q.identity, entries⟩, t) ∧ t.files = s.files ∧
        InOrder (Counted p told) groups (.ok entries) := by
  have hfiles := listing_keepsFiles p q.filter s
  rcases hl : p.listing q.filter s with ⟨r, t⟩
  rw [hl] at hfiles
  obtain rfl : r = .ok groups := by rwa [hl] at hlisted
  have hentries := entries_inOrder h hlisted t
  have hkept := keepsFiles_inFlight (enrich_keepsFiles p) p.out groups t
  have hgather : gather p q s = (inFlight p.out (enrich p) groups >>= fun entries => pure ⟨q.identity, entries⟩) t :=
    bind_ok hl
  rcases hi : inFlight p.out (enrich p) groups t with ⟨r, u⟩
  rw [hi] at hentries hkept
  cases r with
  | error e => exact .inl ⟨e, u, hgather.trans (bind_error hi), hkept.trans hfiles, hentries⟩
  | ok entries => exact .inr ⟨entries, u, hgather.trans (bind_ok hi), hkept.trans hfiles, hentries⟩

theorem writeFile_of_saved {entries : List Entry} {path : String} {t : Session} {after : Files}
    (h : t.files.save path (report q entries) = (after, true)) :
    writeFile path (Result.list ⟨q.identity, entries⟩) t = (.ok (), { t with files := after }) := by
  rw [report] at h
  rw [writeFile, h]

theorem writeFile_of_unsaved {entries : List Entry} {path : String} {t : Session} {after : Files}
    (h : t.files.save path (report q entries) = (after, false)) :
    writeFile path (Result.list ⟨q.identity, entries⟩) t =
      (.error (.unwritten path "the file cannot be written"), { t with files := after }) := by
  rw [report] at h
  rw [writeFile, h]

section Gathered

variable {result : Result} {t : Session} (hcheck : q.check = .ok ())
include hcheck

theorem ofExcept_check (s : Session) : Run.ofExcept q.check s = (.ok (), s) := by
  rw [hcheck]
  rfl

theorem read_of_gather_error {e : Failure} (hg : gather p q s = (.error e, t)) : read p q s = (.error e, t) := by
  rw [read, bind_ok (ofExcept_check hcheck s)]
  exact bind_error hg

variable (hg : gather p q s = (.ok result, t))
include hg

theorem read_of_nowhere (houtput : q.output? = none) : read p q s = (.ok result, t) := by
  rw [read, bind_ok (ofExcept_check hcheck s), bind_ok hg, houtput]
  rfl

theorem read_of_somewhere {path : String} (houtput : q.output? = some path) :
    read p q s = (writeFile path result.list >>= fun _ => pure result) t := by
  rw [read, bind_ok (ofExcept_check hcheck s), bind_ok hg, houtput]

end Gathered

/-- **A query whose groups are listed ends with the entries of the groups, or as the first group that fails.** -/
theorem read_of_listed (h : Counts p.out told) (hcheck : q.check = .ok ())
    (hlisted : (p.listing q.filter s).1 = .ok groups) :
    Ends p told q groups s.files (read p q s).1 (read p q s).2.files := by
  rcases gather_of_listed h hlisted with ⟨e, t, hg, hfiles, hfirst⟩ | ⟨entries, t, hg, hfiles, hall⟩
  · rw [read_of_gather_error hcheck hg, hfiles]
    exact .failed e hfirst
  · cases houtput : q.output? with
    | none =>
      rw [read_of_nowhere hcheck hg houtput, hfiles]
      exact .shown entries hall houtput
    | some path =>
      rw [read_of_somewhere hcheck hg houtput]
      rcases hsave : t.files.save path (report q entries) with ⟨after, written⟩
      cases written with
      | false =>
        rw [bind_error (writeFile_of_unsaved hsave)]
        rw [hfiles] at hsave
        exact .unwritten entries hall path after houtput hsave
      | true =>
        rw [bind_ok (writeFile_of_saved hsave)]
        rw [hfiles] at hsave
        exact .saved entries hall path after houtput hsave (Files.read?_of_save hsave) fun hcounts =>
          entriesOf?_report hall hcounts q

/-- **The course of a query**: it does not fit its schema, or its groups cannot be listed, and the files stay as they
are; or its groups are listed, and the query ends as `Ends` says. -/
inductive Queried (told : Json → Except Failure (List Usage)) (p : Provider) (q : Query) (s : Session) :
    Except Failure Result × Session → Prop
  | rejected (e : Failure) (check : q.check = .error e) : Queried told p q s (.error e, s)
  | unlisted (e : Failure) (t : Session) (check : q.check = .ok ()) (listed : (p.listing q.filter s).1 = .error e)
      (kept : t.files = s.files) : Queried told p q s (.error e, t)
  | listed (groups : List ListedGroup) (r : Except Failure Result) (t : Session) (check : q.check = .ok ())
      (listed : (p.listing q.filter s).1 = .ok groups) (ends : Ends p told q groups s.files r t.files) :
      Queried told p q s (r, t)

/-- **Entries that are asked for several at a time are those of the groups one by one**, in the order of the listing and
whichever question is answered first; a group that fails decides the failure if it is the first in the listing, and a
file is written only with all entries. -/
theorem read_queried (h : Counts p.out told) (q : Query) (s : Session) : Queried told p q s (read p q s) := by
  cases hcheck : q.check with
  | error e =>
    have hread : read p q s = (.error e, s) := by
      rw [read, hcheck]
      rfl
    rw [hread]
    exact .rejected e hcheck
  | ok u =>
    cases hlisted : (p.listing q.filter s).1 with
    | error e =>
      have hl : p.listing q.filter s = (.error e, (p.listing q.filter s).2) := Prod.ext hlisted rfl
      have hread : read p q s = (.error e, (p.listing q.filter s).2) := by
        rw [read, hcheck]
        show (gather p q >>= _) s = _
        exact bind_error (bind_error hl)
      rw [hread]
      exact .unlisted e _ hcheck hlisted (listing_keepsFiles p q.filter s)
    | ok groups =>
      exact .listed groups _ _ hcheck hlisted (read_of_listed h hcheck hlisted)

/-! ## A vendor -/

/-- The counts of groups of which each is used by one machine, as a vendor writes them. -/
def usageContent (ids : List String) : Json :=
  .object [("SecurityGroupAssociationStatisticsSet", .array (ids.map fun id =>
    .object [("CVM", .int 1), ("SecurityGroupId", .string id)]))]

theorem outcome_usageContent {x : Posting} (ids : List String) :
    (⟨x, .telling (usageContent ids)⟩ : Exchange).outcome usages =
      .ok (ids.map fun id => { id := some id, machines := 1 }) := by
  refine Exchange.outcome_list usage (fun id _ => ?_) (fun id _ => ?_) rfl (by decide) (by decide)
  · simp only [Json.Fits, Json.FitsMembers, and_true]
    exact ⟨by decide, by decide⟩
  · have hordered : Json.Ordered [("CVM", Json.int 1), ("SecurityGroupId", Json.string id)] := by
      simp only [Json.Ordered, List.pairwise_cons, List.mem_singleton, forall_eq]
      exact ⟨by decide, by simp, .nil⟩
    rw [Json.told_object hordered]
    simp only [List.map_cons, List.map_nil, Json.told_string, Json.told_int]
    rfl

/-- A vendor that lists groups and tells of some that each is used by one machine, whichever is asked for. The last
of the calls in flight is served first. -/
def counter (groups : List (String × String)) (ids : List String) : Provider :=
  .lister groups (fun _ => .telling (usageContent ids)) width

/-- What it tells. -/
def oneMachine (ids : List String) : List Usage := ids.map fun id => { id := some id, machines := 1 }

theorem counter_counts (groups : List (String × String)) (ids : List String) :
    Counts (counter groups ids).out fun _ => .ok (oneMachine ids) := by
  intro earlier x hx
  have hreply : (counter groups ids).out.reply earlier x = .telling (usageContent ids) :=
    if_neg (by rw [hx]; decide)
  rw [hreply]
  exact outcome_usageContent ids

/-- A query that fits its schema gets the groups of the vendor. -/
theorem Queried.ends_of_counter {listing : List (String × String)} {ids : List String}
    {ended : Except Failure Result × Session} (h : Queried told (counter listing ids) q {} ended)
    (hcheck : q.check = .ok ()) (hlen : listing.length ≤ Text.Decimal.maxNat64) :
    Ends (counter listing ids) told q (listing.map fun g => Provider.plainGroup g.1 g.2) (Session.files {}) ended.1
      ended.2.files := by
  have hlisting : ((counter listing ids).listing q.filter {}).1 = .ok (listing.map fun g =>
    Provider.plainGroup g.1 g.2) := Provider.listing_lister hlen q.filter
  cases h with
  | rejected e check =>
    rw [hcheck] at check
    cases check
  | unlisted e t check listed kept =>
    rw [hlisting] at listed
    cases listed
  | listed groups r t check listed ends =>
    rw [hlisting] at listed
    cases listed
    exact ends

/-- The uses of all groups are the same answer, so there is one list of entries, or one failure. -/
theorem eq_mapM_of_inOrder {r : Except Failure (List Entry)} (h : InOrder (Counted p fun _ => .ok uses) groups r) :
    r = groups.mapM fun g => entry g (useCount (g.id.getD "") uses) :=
  h.eq_of_forall fun _ _ hg => hg.eq_of_told rfl

/-- With all entries the file is written, if it can be. -/
theorem Ends.of_entries {files after : Files} {r : Except Failure Result} {entries : List Entry} {path : String}
    (h : Ends p (fun _ => .ok uses) q groups files r after)
    (hentries : (groups.mapM fun g => entry g (useCount (g.id.getD "") uses)) = .ok entries)
    (hpath : q.output? = some path) (hsave : ∀ text, (files.save path text).2 = true) :
    r = .ok ⟨q.identity, entries⟩ ∧ after.read? path = some (report q entries) := by
  cases h with
  | failed e first =>
    rw [← eq_mapM_of_inOrder first] at hentries
    cases hentries
  | shown entries' all nowhere =>
    rw [hpath] at nowhere
    cases nowhere
  | saved entries' all path' after somewhere saves reads decodes =>
    rw [← eq_mapM_of_inOrder all] at hentries
    cases hentries
    rw [hpath] at somewhere
    cases somewhere
    exact ⟨rfl, reads⟩
  | unwritten entries' all path' after somewhere saves =>
    rw [hpath] at somewhere
    cases somewhere
    have hwritten := hsave (report q entries')
    rw [saves] at hwritten
    cases hwritten

/-- Without an entry for some group nothing is written. -/
theorem Ends.of_fault {files after : Files} {r : Except Failure Result} {e : Failure}
    (h : Ends p (fun _ => .ok uses) q groups files r after)
    (hentries : (groups.mapM fun g => entry g (useCount (g.id.getD "") uses)) = .error e) :
    r = .error e ∧ after = files := by
  have none : ∀ entries, ¬InOrder (Counted p fun _ => .ok uses) groups (.ok entries) := by
    intro entries all
    rw [← eq_mapM_of_inOrder all] at hentries
    cases hentries
  cases h with
  | failed e' first =>
    rw [← eq_mapM_of_inOrder first] at hentries
    cases hentries
    exact ⟨rfl, rfl⟩
  | shown entries all nowhere => exact absurd all (none entries)
  | saved entries all => exact absurd all (none entries)
  | unwritten entries all => exact absurd all (none entries)

/-- Two groups with projects. -/
def twoGroups : List (String × String) := [("sg-1", "0"), ("sg-2", "7")]

/-- Their entries if one machine uses the second group. -/
def twoEntries : List Entry := [⟨"sg-1", "", "", "", 0, 0⟩, ⟨"sg-2", "", "", "", 1, 7⟩]

/-- A query whose result goes into a file. -/
def savedQuery : Query := { outputFile := some "/groups.json" }

/-- The file can be written where there is none. -/
theorem save_savedQuery (text : String) : ((Session.files {}).save "/groups.json" text).2 = true := by
  have hmade : (Session.files {}).makeAbove "/groups.json" = (Session.files {}, true) := by decide
  have hplace : (Session.files {}).filePlace? "/groups.json" = some ["groups.json"] := by decide
  have hnone : (Session.files {}).entryAt ["groups.json"] = none := by decide
  have hname : ["groups.json"].getLast?.any Files.isName = true := by
    simp [Files.isName]
    decide
  simp only [Files.save, hmade, Files.write?, hplace, hnone, hname, if_true]

/-- **A query of two groups has two entries, and its file has them too; a third group that is of no project decides the
failure**, and leaves no file. -/
theorem read_queried_counter :
    ((read (counter twoGroups ["sg-2"]) savedQuery {}).1 = .ok ⟨savedQuery.identity, twoEntries⟩ ∧
      (read (counter twoGroups ["sg-2"]) savedQuery {}).2.files.read? "/groups.json" =
        some (report savedQuery twoEntries)) ∧
    (read (counter (twoGroups ++ [("sg-3", "")]) ["sg-2"]) savedQuery {}).1 =
        .error (.invalid (.projectId "sg-3" .empty)) ∧
      (read (counter (twoGroups ++ [("sg-3", "")]) ["sg-2"]) savedQuery {}).2.files = Session.files {} := by
  have hcheck : savedQuery.check = .ok () := by decide
  have htwo := (read_queried (counter_counts twoGroups ["sg-2"]) savedQuery {}).ends_of_counter hcheck (by decide)
  have hthree := (read_queried (counter_counts (twoGroups ++ [("sg-3", "")]) ["sg-2"]) savedQuery {}).ends_of_counter
    hcheck (by decide)
  exact ⟨htwo.of_entries (by decide) rfl save_savedQuery, hthree.of_fault (by decide)⟩

end SecurityGroups

end Provision
