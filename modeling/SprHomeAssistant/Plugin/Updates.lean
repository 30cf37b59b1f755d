import SprHomeAssistant.Library.Greatest
import SprHomeAssistant.Library.Runs
import SprHomeAssistant.Plugin.Refresh

/-! The update check over whole runs.

The registry is asked at most once an hour, and what it answered last decides until it
answers again. Versions are compared by their three numbers, which different texts may
share; the pass over the tags keeps the first of the greatest.
-/

set_option autoImplicit false

namespace SprHomeAssistant.Plugin
open Go Library.Greatest Library.Runs

/-! ## Calls -/

/-- One call of `latestAvailableVersion`: the clock before the query and after it, and how
the query ends if it is made. -/
structure VersionCall where
  current : String
  asked : Time
  answered : Time
  reply : Option (Slice String)

def VersionCheck.call (check : VersionCheck) (call : VersionCall) : VersionCheck :=
  (latestAvailableVersion call.current check call.asked call.answered call.reply).2

def VersionCheck.answer (check : VersionCheck) (call : VersionCall) : String :=
  (latestAvailableVersion call.current check call.asked call.answered call.reply).1

def checkAfter (calls : List VersionCall) : VersionCheck := run VersionCheck.call .initial calls

/-- The tags that a call fetches, if it makes its query and the query succeeds. -/
def fetchedBy (check : VersionCheck) (call : VersionCall) : Option (List String) :=
  if (parseSemver call.current).isSome && !check.fresh call.asked then call.reply.map Slice.items
  else none

def fetched (t : Transition VersionCheck VersionCall) : Option (List String) := fetchedBy t.before t.action

/-- The list that the registry gave last. -/
def lastFetched (calls : List VersionCall) : Option (List String) :=
  ((transitions VersionCheck.call .initial calls).filterMap fetched).getLast?

/-- No call begins before an earlier one has ended. -/
structure InOrder (calls : List VersionCall) : Prop where
  ends : ∀ call ∈ calls, call.asked ≤ call.answered
  follows : calls.Pairwise fun first second => first.answered ≤ second.asked

/-! ## What a run owes -/

/-- The greatest tag that parses, or the empty text where none does. -/
def IsNewest (tags : List String) (newest : String) : Prop :=
  ((∀ tag ∈ tags, parseSemver tag = none) ∧ newest = "") ∨
    (newest ∈ tags ∧ (parseSemver newest).isSome = true ∧ ∀ tag ∈ tags, semverLess newest tag = false)

def Reads.call (reads : Reads) : VersionCall :=
  ⟨resolveVersion reads, reads.releaseAsked, reads.releaseAnswered, reads.releasesAvailable⟩

/-- What holds of a call that comes after earlier ones. -/
structure ChecksUpdates (earlier : List VersionCall) (call : VersionCall) : Prop where
  apart : (fetchedBy (checkAfter earlier) call).isSome = true →
    ∀ before query between, earlier = before ++ query :: between →
      (fetchedBy (checkAfter before) query).isSome = true → hour ≤ call.asked - query.answered
  unversioned : parseSemver call.current = none → (checkAfter earlier).answer call = ""
  newest : parseSemver call.current ≠ none →
    IsNewest ((lastFetched (earlier ++ [call])).getD []) ((checkAfter earlier).answer call)
  available : ∀ (now : Time) (reads : Reads) (s : StateStore), reads.call = call →
    reads.devices.isSome = true →
      ((refreshState now reads s (checkAfter earlier)).store.snapshot.router.updateAvailable = true ↔
        ∃ tag ∈ (lastFetched (earlier ++ [call])).getD [], semverLess call.current tag = true)

/-! ## Versions in order -/

abbrev VersionKey := ℤ ×ₗ ℤ ×ₗ ℤ

def Semver.key (v : Semver) : VersionKey := toLex (v.major, toLex (v.minor, v.patch))

def versionKey (s : String) : Option VersionKey := (parseSemver s).map Semver.key

theorem versionKey_isSome (s : String) : (versionKey s).isSome = (parseSemver s).isSome :=
  Option.isSome_map

theorem versionKey_eq_none {s : String} : versionKey s = none ↔ parseSemver s = none :=
  Option.map_eq_none_iff

theorem key_lt_iff (a b : Semver) :
    a.key < b.key ↔ a.major < b.major ∨
      a.major = b.major ∧ (a.minor < b.minor ∨ a.minor = b.minor ∧ a.patch < b.patch) := by
  rw [Semver.key, Semver.key, Prod.Lex.toLex_lt_toLex, Prod.Lex.toLex_lt_toLex]

/-- `semverLess` compares in a linear order, wherever both texts have a version. -/
theorem semverLess_iff (a b : String) : semverLess a b = true ↔ Below versionKey a b := by
  unfold semverLess Below versionKey
  cases parseSemver a with
  | none => simp
  | some va =>
      cases parseSemver b with
      | none => simp
      | some vb =>
          simp only [Option.map_some, Option.some.injEq, exists_and_left, exists_eq_left', key_lt_iff]
          by_cases major : va.major = vb.major
          · by_cases minor : va.minor = vb.minor
            · by_cases patch : va.patch = vb.patch <;> simp [major, minor, patch]
            · simp [major, minor]
          · simp [major]

theorem semverLess_false_iff (a b : String) : semverLess a b = false ↔ ¬ Below versionKey a b := by
  rw [← semverLess_iff, Bool.not_eq_true]

theorem parseSemver_empty : parseSemver "" = none := by decide +kernel

/-- `best` while it is still empty stands for no tag. -/
def chosen (best : String) : Option String := if best = "" then none else some best

theorem isNewest_iff (tags : List String) (newest : String) :
    IsNewest tags newest ↔ IsBest versionKey tags (chosen newest) := by
  unfold IsNewest chosen
  by_cases empty : newest = ""
  · simp [empty, isBest_none_iff, parseSemver_empty, versionKey_eq_none]
  · simp [empty, isBest_some_iff, semverLess_false_iff, versionKey_isSome]

theorem chosen_of_ne {best : String} (named : best ≠ "") : chosen best = some best := if_neg named

theorem bestTag_cases (best tag : String) :
    (parseSemver tag = none ∧ bestTag best tag = best) ∨
    ((parseSemver tag).isSome = true ∧ (best = "" ∨ semverLess best tag = true) ∧ bestTag best tag = tag) ∨
    (best ≠ "" ∧ semverLess best tag = false ∧ bestTag best tag = best) := by
  unfold bestTag
  cases parseSemver tag with
  | none => exact Or.inl ⟨rfl, rfl⟩
  | some version =>
      right
      by_cases taken : best = "" ∨ semverLess best tag = true
      · exact Or.inl ⟨rfl, taken, by simp [taken]⟩
      · obtain ⟨named, greater⟩ := not_or.mp taken
        exact Or.inr ⟨named, Bool.eq_false_iff.mpr greater, by simp [named, greater]⟩

theorem bestTag_best {tags : List String} {best : String}
    (isBest : IsBest versionKey tags (chosen best)) (tag : String) :
    IsBest versionKey (tags ++ [tag]) (chosen (bestTag best tag)) := by
  obtain ⟨unparsed, same⟩ | ⟨parsed, taken, replaced⟩ | ⟨named, greater, same⟩ := bestTag_cases best tag
  · rw [same]
    exact isBest.skip (versionKey_eq_none.mpr unparsed)
  · have named : tag ≠ "" := by
      rintro rfl
      rw [parseSemver_empty] at parsed
      cases parsed
    have exceeds : ∀ top ∈ chosen best, Below versionKey top tag := by
      intro top held
      obtain ⟨filled, rfl⟩ : best ≠ "" ∧ best = top := by simpa [chosen] using held
      exact (semverLess_iff best tag).mp (taken.resolve_left filled)
    rw [replaced, chosen_of_ne named]
    exact isBest.replace ((versionKey_isSome tag).trans parsed) exceeds
  · rw [same, chosen_of_ne named]
    rw [chosen_of_ne named] at isBest
    exact isBest.keep ((semverLess_false_iff best tag).mp greater)

/-- The pass over the tags ends with the newest. -/
theorem foldl_bestTag (tags : List String) : IsNewest tags (tags.foldl bestTag "") := by
  rw [isNewest_iff]
  induction tags using List.reverseRecOn with
  | nil => simp [chosen, isBest_none_iff]
  | append_singleton tags tag ih =>
      rw [List.foldl_concat]
      exact bestTag_best ih tag

/-! ## One call -/

/-- A call does not compare, or answers from the cache, or fetches a new list. -/
theorem call_cases (check : VersionCheck) (call : VersionCall) :
    (parseSemver call.current = none ∧ fetchedBy check call = none ∧ check.call call = check ∧
        check.answer call = "") ∨
    (parseSemver call.current ≠ none ∧ fetchedBy check call = none ∧ check.call call = check ∧
        check.answer call = check.result) ∨
    ∃ tags, parseSemver call.current ≠ none ∧ check.fresh call.asked = false ∧
      fetchedBy check call = some tags ∧
      check.call call = ⟨some call.answered, tags.foldl bestTag ""⟩ ∧
      check.answer call = tags.foldl bestTag "" := by
  unfold fetchedBy VersionCheck.call VersionCheck.answer latestAvailableVersion
  cases parseSemver call.current with
  | none => exact Or.inl ⟨rfl, rfl, rfl, rfl⟩
  | some version =>
      right
      cases fresh : check.fresh call.asked with
      | true => exact Or.inl ⟨by simp, by simp, by simp, by simp⟩
      | false =>
          cases call.reply with
          | none => exact Or.inl ⟨by simp, by simp, by simp, by simp⟩
          | some tags => exact Or.inr ⟨tags.items, by simp, rfl, by simp, by simp, by simp⟩

theorem checkAfter_concat (earlier : List VersionCall) (call : VersionCall) :
    checkAfter (earlier ++ [call]) = (checkAfter earlier).call call := run_concat _ _ _

theorem lastFetched_concat (earlier : List VersionCall) (call : VersionCall) :
    lastFetched (earlier ++ [call]) =
      (fetchedBy (checkAfter earlier) call).or (lastFetched earlier) := by
  have last : (transitions VersionCheck.call (checkAfter earlier) [call]).filterMap fetched =
      (fetchedBy (checkAfter earlier) call).toList := by
    cases made : fetchedBy (checkAfter earlier) call <;> simp [transitions, fetched, made]
  rw [lastFetched, transitions_append, List.filterMap_append]
  change (_ ++ (transitions VersionCheck.call (checkAfter earlier) [call]).filterMap fetched).getLast? = _
  rw [last]
  cases fetchedBy (checkAfter earlier) call <;> simp [lastFetched]

/-! ## Every run -/

/-- The cache holds the newest tag of the last list. -/
theorem result_newest (calls : List VersionCall) :
    IsNewest ((lastFetched calls).getD []) (checkAfter calls).result := by
  induction calls using List.reverseRecOn with
  | nil => exact Or.inl ⟨by simp [lastFetched, transitions], rfl⟩
  | append_singleton earlier call ih =>
      rw [checkAfter_concat, lastFetched_concat]
      obtain ⟨-, silent, same, -⟩ | ⟨-, silent, same, -⟩ | ⟨tags, -, -, made, after, -⟩ :=
        call_cases (checkAfter earlier) call
      · rwa [silent, same, Option.none_or]
      · rwa [silent, same, Option.none_or]
      · rw [made, after]
        exact foldl_bestTag tags

theorem answer_newest (earlier : List VersionCall) {call : VersionCall}
    (versioned : parseSemver call.current ≠ none) :
    IsNewest ((lastFetched (earlier ++ [call])).getD []) ((checkAfter earlier).answer call) := by
  have after := result_newest (earlier ++ [call])
  rw [checkAfter_concat] at after
  obtain ⟨unversioned, -⟩ | ⟨-, -, same, answer⟩ | ⟨tags, -, -, -, fetched, answer⟩ :=
    call_cases (checkAfter earlier) call
  · exact absurd unversioned versioned
  · rwa [answer, ← same]
  · rw [fetched] at after
    rwa [answer]

theorem InOrder.earlier {earlier : List VersionCall} {call : VersionCall}
    (inOrder : InOrder (earlier ++ [call])) : InOrder earlier :=
  ⟨fun query member => inOrder.ends query (List.mem_append_left _ member),
    (List.pairwise_append.mp inOrder.follows).1⟩

/-- The cache is not older than any answer that the registry has given. -/
theorem checkedAt_after {calls : List VersionCall} (inOrder : InOrder calls) :
    ∀ before query between, calls = before ++ query :: between →
      (fetchedBy (checkAfter before) query).isSome = true →
      ∃ t, (checkAfter calls).checkedAt = some t ∧ query.answered ≤ t := by
  induction calls using List.reverseRecOn with
  | nil => simp
  | append_singleton earlier call ih =>
      intro before query between split succeeded
      rw [checkAfter_concat]
      obtain rfl | ⟨between, last, rfl⟩ := List.eq_nil_or_concat between
      · obtain ⟨rfl, rfl⟩ := List.append_singleton_inj.mp split
        obtain ⟨-, silent, -⟩ | ⟨-, silent, -⟩ | ⟨tags, -, -, -, after, -⟩ :=
          call_cases (checkAfter earlier) call
        · simp [silent] at succeeded
        · simp [silent] at succeeded
        · exact ⟨call.answered, by rw [after], le_rfl⟩
      · have whole : earlier ++ [call] = (before ++ query :: between) ++ [last] := by simp [split]
        obtain ⟨rfl, rfl⟩ := List.append_singleton_inj.mp whole
        obtain ⟨t, checked, below⟩ := ih inOrder.earlier before query between rfl succeeded
        obtain ⟨-, -, same, -⟩ | ⟨-, -, same, -⟩ | ⟨tags, -, -, -, after, -⟩ :=
          call_cases (checkAfter (before ++ query :: between)) call
        · exact ⟨t, by rw [same, checked], below⟩
        · exact ⟨t, by rw [same, checked], below⟩
        · have asked : query.answered ≤ call.asked :=
            (List.pairwise_append.mp inOrder.follows).2.2 query (by simp) call (by simp)
          exact ⟨call.answered, by rw [after], asked.trans (inOrder.ends call (by simp))⟩

theorem queries_apart {earlier : List VersionCall} {call : VersionCall}
    (inOrder : InOrder earlier) (succeeds : (fetchedBy (checkAfter earlier) call).isSome = true)
    {before : List VersionCall} {query : VersionCall} {between : List VersionCall}
    (split : earlier = before ++ query :: between)
    (succeeded : (fetchedBy (checkAfter before) query).isSome = true) :
    hour ≤ call.asked - query.answered := by
  obtain ⟨t, checked, below⟩ := checkedAt_after inOrder before query between split succeeded
  obtain ⟨-, silent, -⟩ | ⟨-, silent, -⟩ | ⟨tags, -, stale, -⟩ := call_cases (checkAfter earlier) call
  · simp [silent] at succeeds
  · simp [silent] at succeeds
  · have old : hour ≤ call.asked - t := by simpa [VersionCheck.fresh, checked] using stale
    exact old.trans (Int.sub_le_sub_left below _)

theorem buildSnapshot_updateAvailable (g : Gathered) (tracking : Tracking) :
    (buildSnapshot g tracking).router.updateAvailable = true ↔
      g.latest ≠ "" ∧ g.version ≠ "" ∧ semverLess g.version g.latest = true := by
  simp only [buildSnapshot, Bool.and_eq_true, and_assoc]
  exact and_congr decide_eq_true_iff (and_congr decide_eq_true_iff Iff.rfl)

theorem checkRelease_answer (reads : Reads) (check : VersionCheck) :
    (checkRelease reads check).1 = check.answer reads.call := by
  simp only [checkRelease, VersionCheck.answer, Reads.call]

theorem updateAvailable_iff (now : Time) {reads : Reads} {s : StateStore} {check : VersionCheck}
    (readable : reads.devices.isSome = true) :
    (refreshState now reads s check).store.snapshot.router.updateAvailable = true ↔
      check.answer reads.call ≠ "" ∧ reads.call.current ≠ "" ∧
        semverLess reads.call.current (check.answer reads.call) = true := by
  obtain ⟨table, readable⟩ := Option.isSome_iff_exists.mp readable
  rw [refreshState_published readable]
  simp only [publish, buildSnapshot_updateAvailable, gatherFrom, checkRelease_answer, Reads.call]

/-- An update is available exactly when a tag of the last list is above the version. -/
theorem update_announced_iff {tags : List String} {current latest : String}
    (unversioned : parseSemver current = none → latest = "")
    (newest : parseSemver current ≠ none → IsNewest tags latest) :
    (latest ≠ "" ∧ current ≠ "" ∧ semverLess current latest = true) ↔
      ∃ tag ∈ tags, semverLess current tag = true := by
  by_cases parsed : parseSemver current = none
  · simp [unversioned parsed, semverLess, parsed]
  · have named : current ≠ "" := by
      rintro rfl
      exact parsed parseSemver_empty
    have best := ((isNewest_iff tags latest).mp (newest parsed)).exists_below_iff current
    simp only [semverLess_iff, best, chosen]
    by_cases empty : latest = ""
    · simp [empty]
    · simp [empty, named]

/-- In every run of calls, successful queries are an hour apart, and every answer and every
snapshot made with it follow the list fetched last. -/
theorem run_checksUpdates (earlier : List VersionCall) (call : VersionCall)
    (inOrder : InOrder (earlier ++ [call])) : ChecksUpdates earlier call := by
  have unversioned : parseSemver call.current = none → (checkAfter earlier).answer call = "" := by
    intro missing
    obtain ⟨-, -, -, answer⟩ | ⟨versioned, -⟩ | ⟨_, versioned, -⟩ := call_cases (checkAfter earlier) call
    · exact answer
    · exact absurd missing versioned
    · exact absurd missing versioned
  refine ⟨fun succeeds before query between split succeeded =>
    queries_apart inOrder.earlier succeeds split succeeded, unversioned, answer_newest earlier, ?_⟩
  rintro now reads s rfl readable
  rw [updateAvailable_iff now readable]
  exact update_announced_iff unversioned (answer_newest earlier)

def tagsAt (asked : Time) (tags : Option (List String)) : VersionCall :=
  ⟨"v1.9.0", asked, asked + second, tags.map some⟩

/-- A first list, an answer from the cache and a failed query. -/
def threeCalls : List VersionCall :=
  [tagsAt 0 (some ["1.2.0", "latest", "v1.10.0", "1.010.0"]), tagsAt hour none, tagsAt (2 * hour) none]

example : (checkAfter threeCalls).answer (tagsAt (3 * hour) none) = "v1.10.0" := by decide +kernel

theorem run_checksUpdates_threeCalls :
    ChecksUpdates threeCalls (tagsAt (3 * hour) (some ["v1.9.0", " 1.11.0 "])) :=
  run_checksUpdates _ _ ⟨by decide, by decide⟩

end SprHomeAssistant.Plugin
