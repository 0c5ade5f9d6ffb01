import Mathlib.Data.List.Pairwise
import PathRouting.Proofs.Verdict
set_option autoImplicit false

/-!
# Registrations side by side

Whether all registrations of a list succeed is settled by its members and its pairs.  A call is
sound when its pattern is well formed and the expressions in it compile; two calls are compatible
unless they are for the same method and their patterns are the same, or part at two segments of
which one excludes the other.  `succeeds_iff_compatible` says that nothing else counts, and neither
does the order of the calls (`Call.Compatible.symm`).
-/

namespace PathRouting

variable {E H : Type}

/-! ## Patterns that exclude each other -/

namespace Segment

/-- Can the segment not stand beside the other one, if their texts differ? -/
def excludes : Segment → Segment → Bool
  | literal _, _ => false
  | param _, other => other.isWildcard || other.isParam
  | regex _ source, other => other.isWildcard || other.source? = some source
  | wildcard, other => other.isParam || other.source?.isSome

theorem excludes_comm (segment other : Segment) :
    segment.excludes other = other.excludes segment := by
  cases segment with
  | literal text => cases other <;> rfl
  | param name => cases other <;> rfl
  | wildcard => cases other <;> rfl
  | regex name source =>
    cases other with
    | regex name' source' => simp [excludes, isWildcard, source?, eq_comm]
    | literal text => rfl
    | param name' => rfl
    | wildcard => rfl

end Segment

/-- Do two patterns part at segments of which one excludes the other? -/
def clash : List String → List String → Bool
  | first :: rest, other :: others =>
    if first = other then clash rest others
    else (Segment.ofText first).excludes (Segment.ofText other)
  | [], _ => false
  | _ :: _, [] => false

theorem clash_cons_self (first : String) (rest others : List String) :
    clash (first :: rest) (first :: others) = clash rest others := by
  rw [clash, if_pos rfl]

theorem clash_cons_of_ne {first other : String} (hne : first ≠ other) (rest others : List String) :
    clash (first :: rest) (other :: others) =
      (Segment.ofText first).excludes (Segment.ofText other) := by
  rw [clash, if_neg hne]

@[simp] theorem clash_nil_right (segments : List String) : clash segments [] = false := by
  cases segments with
  | nil => rfl
  | cons first rest => rfl

theorem clash_self (segments : List String) : clash segments segments = false := by
  induction segments with
  | nil => rfl
  | cons first rest ih => rw [clash_cons_self, ih]

theorem clash_comm (left right : List String) : clash left right = clash right left := by
  induction left generalizing right with
  | nil => rw [clash_nil_right, clash]
  | cons first rest ih =>
    cases right with
    | nil => rfl
    | cons other others =>
      by_cases hsame : first = other
      · subst hsame
        rw [clash_cons_self, clash_cons_self, ih]
      · rw [clash_cons_of_ne hsame, clash_cons_of_ne (Ne.symm hsame), Segment.excludes_comm]

/-- The patterns part at their second segments, and what follows there does not count. -/
example : clash ["item", ":id", "edit"] ["item", "*", "edit"] = true := by rfl

/-- A segment has no rival exactly when none of its siblings excludes it. -/
theorem rivalAmong?_eq_none_iff {incoming : String} {siblings : List String} :
    rivalAmong? incoming siblings = none ↔
      ∀ sibling ∈ siblings,
        (Segment.ofText sibling).excludes (Segment.ofText incoming) = false := by
  simp only [Segment.excludes_comm _ (Segment.ofText incoming)]
  unfold rivalAmong?
  cases Segment.ofText incoming with
  | literal text => simp [Segment.excludes]
  | param name => simp [Segment.excludes, forall_and]
  | regex name source => simp [Segment.excludes, forall_and]
  | wildcard => simp [Segment.excludes, forall_and]

namespace RouteList

theorem pairwise_below {entries : RouteList H}
    (hpairs : entries.Pairwise fun a b => clash a.1 b.1 = false) (text : String) :
    (entries.below text).Pairwise fun a b => clash a.1 b.1 = false := by
  unfold below
  rw [List.pairwise_filterMap]
  refine hpairs.imp fun {entry other} hclash found hfound found' hfound' => ?_
  obtain ⟨segments, handler⟩ := entry
  obtain ⟨segments', handler'⟩ := other
  cases segments with
  | nil => cases hfound
  | cons first rest =>
    cases segments' with
    | nil => cases hfound'
    | cons first' rest' =>
      simp only [Option.ite_none_right_eq_some, Option.some.injEq] at hfound hfound'
      obtain ⟨rfl, rfl⟩ := hfound
      obtain ⟨rfl, rfl⟩ := hfound'
      rwa [clash_cons_self] at hclash

theorem clash_of_mem {entries : RouteList H}
    (hpairs : entries.Pairwise fun a b => clash a.1 b.1 = false) {entry other : List String × H}
    (hentry : entry ∈ entries) (hother : other ∈ entries) : clash entry.1 other.1 = false := by
  have hsymm : Std.Symm fun a b : List String × H => clash a.1 b.1 = false :=
    ⟨fun a b hclash => by rw [clash_comm, hclash]⟩
  exact hpairs.forall_of_forall (fun entry _ => clash_self entry.1) hentry hother

/-- Below a segment that some route starts with, only the routes that start with it can clash with a
new one. -/
theorem forall_clash_iff_of_mem_heads {entries : RouteList H}
    (hpairs : entries.Pairwise fun a b => clash a.1 b.1 = false) {text : String}
    (hhead : text ∈ entries.heads) (rest : List String) :
    (∀ entry ∈ entries, clash entry.1 (text :: rest) = false) ↔
      ∀ entry ∈ entries.below text, clash entry.1 rest = false := by
  constructor
  · rintro hall ⟨tail, handler⟩ hmem
    have hclash := hall _ (mem_below.mp hmem)
    rwa [clash_cons_self] at hclash
  · rintro hbelow ⟨segments, handler⟩ hmem
    cases segments with
    | nil => rfl
    | cons first others =>
      by_cases hsame : first = text
      · subst hsame
        rw [clash_cons_self]
        exact hbelow _ (mem_below.mpr hmem)
      · -- Some route goes on with `text`, and those two do not clash.
        obtain ⟨tail, bound, hentry⟩ := mem_heads.mp hhead
        have hapart := clash_of_mem hpairs hmem hentry
        rw [clash_cons_of_ne hsame] at hapart ⊢
        exact hapart

/-- A route with a new first segment clashes when some other first segment excludes it. -/
theorem forall_clash_iff_of_not_mem_heads {entries : RouteList H} {text : String}
    (hhead : text ∉ entries.heads) (rest : List String) :
    (∀ entry ∈ entries, clash entry.1 (text :: rest) = false) ↔
      ∀ sibling ∈ entries.heads,
        (Segment.ofText sibling).excludes (Segment.ofText text) = false := by
  constructor
  · intro hall sibling hsibling
    obtain ⟨tail, handler, hmem⟩ := mem_heads.mp hsibling
    have hne : sibling ≠ text := fun hsame => hhead (hsame ▸ hsibling)
    have hclash := hall _ hmem
    rwa [clash_cons_of_ne hne] at hclash
  · rintro hnone ⟨segments, handler⟩ hmem
    cases segments with
    | nil => rfl
    | cons first others =>
      have hfirst : first ∈ entries.heads := mem_heads.mpr ⟨others, handler, hmem⟩
      have hne : first ≠ text := fun hsame => hhead (hsame ▸ hfirst)
      rw [clash_cons_of_ne hne]
      exact hnone first hfirst

/-- Where no two routes clash, nothing is in the way of a new one exactly when none of them clashes
with it. -/
theorem conflict?_eq_none_iff {entries : RouteList H}
    (hpairs : entries.Pairwise fun a b => clash a.1 b.1 = false) (segments : List String) :
    entries.conflict? segments = none ↔ ∀ entry ∈ entries, clash entry.1 segments = false := by
  induction segments generalizing entries with
  | nil => exact ⟨fun _ entry _ => clash_nil_right entry.1, fun _ => rfl⟩
  | cons text rest ih =>
    rw [conflict?_cons]
    by_cases hhead : text ∈ entries.heads
    · rw [if_pos hhead, ih (pairwise_below hpairs text),
        forall_clash_iff_of_mem_heads hpairs hhead]
    · rw [if_neg hhead, Option.map_eq_none_iff, rivalAmong?_eq_none_iff,
        forall_clash_iff_of_not_mem_heads hhead]

end RouteList

/-! ## Calls -/

namespace Call

/-- The pattern of a call is well formed, and the expressions in it compile. -/
def Sound (E : Type) [Constraint E] (call : Call H) : Prop :=
  ∃ segments, Path.patternSegments call.pattern = .ok segments ∧
    ∀ segment ∈ segments, Segment.broken? E segment = none

/-- Two calls for one method have different patterns that do not clash. -/
def Compatible (call other : Call H) : Prop :=
  call.method = other.method → call.pattern ≠ other.pattern ∧
    ∀ {segments others : List String}, Path.patternSegments call.pattern = .ok segments →
      Path.patternSegments other.pattern = .ok others → clash segments others = false

theorem Compatible.symm {call other : Call H} (hcompatible : call.Compatible other) :
    other.Compatible call := by
  intro hmethod
  obtain ⟨hpattern, hclash⟩ := hcompatible hmethod.symm
  refine ⟨Ne.symm hpattern, fun hsegments hothers => ?_⟩
  rw [clash_comm]
  exact hclash hothers hsegments

/-- Of compatible calls, no two are for the same method and the same pattern. -/
theorem eq_of_mem {calls : List (Call H)} (hcalls : calls.Pairwise Compatible) {call other : Call H}
    (hcall : call ∈ calls) (hother : other ∈ calls) (hmethod : call.method = other.method)
    (hpattern : call.pattern = other.pattern) : call = other := by
  have hsymm : Std.Symm fun call other : Call H => call.Compatible other :=
    ⟨fun _ _ => Compatible.symm⟩
  by_contra hne
  exact (hcalls.forall hcall hother hne hmethod).1 hpattern

end Call

theorem pairwise_entriesFor {log : List (Call H)} (hlog : log.Pairwise Call.Compatible)
    (method : String) :
    (entriesFor method log).Pairwise fun a b => clash a.1 b.1 = false := by
  unfold entriesFor
  rw [List.pairwise_filterMap]
  refine hlog.imp fun {call other} hcompatible found hfound found' hfound' => ?_
  simp only [Option.ite_none_right_eq_some] at hfound hfound'
  obtain ⟨hmethod, hfound⟩ := hfound
  obtain ⟨hmethod', hfound'⟩ := hfound'
  split at hfound
  · next segments hsegments =>
    split at hfound'
    · next others hothers =>
      rw [← Option.some.inj hfound, ← Option.some.inj hfound']
      exact (hcompatible (hmethod.trans hmethod'.symm)).2 hsegments hothers
    · cases hfound'
  · cases hfound

/-- A call is compatible with the ones before it when its pattern is new among them and does not
clash with any of theirs. -/
theorem forall_compatible_iff {log : List (Call H)} {call : Call H} {segments : List String}
    (hparsed : Path.patternSegments call.pattern = .ok segments) :
    (∀ earlier ∈ log, earlier.Compatible call) ↔
      (∀ entry ∈ entriesFor call.method log, clash entry.1 segments = false) ∧
        ¬ ∃ earlier ∈ log, earlier.method = call.method ∧ earlier.pattern = call.pattern := by
  constructor
  · intro hall
    constructor
    · rintro ⟨others, handler⟩ hmem
      obtain ⟨earlier, hearlier, hmethod, hothers, -⟩ := mem_entriesFor.mp hmem
      exact (hall earlier hearlier hmethod).2 hothers hparsed
    · rintro ⟨earlier, hearlier, hmethod, hpattern⟩
      exact (hall earlier hearlier hmethod).1 hpattern
  · rintro ⟨hclash, hnew⟩ earlier hearlier hmethod
    refine ⟨fun hpattern => hnew ⟨earlier, hearlier, hmethod, hpattern⟩, ?_⟩
    intro others parsed hothers hsame
    rw [← Except.ok.inj (hparsed.symm.trans hsame)]
    exact hclash (others, earlier.handler)
      (mem_entriesFor.mpr ⟨earlier, hearlier, hmethod, hothers, rfl⟩)

/-- After calls that are compatible with each other, a call succeeds exactly when it is sound and
compatible with each of them. -/
theorem verdict_eq_ok_iff [Constraint E] {log : List (Call H)}
    (hlog : log.Pairwise Call.Compatible) (call : Call H) :
    verdict E log call.method call.pattern = .ok () ↔
      call.Sound E ∧ ∀ earlier ∈ log, earlier.Compatible call := by
  unfold verdict Call.Sound
  cases hparsed : Path.patternSegments call.pattern with
  | error fault => simp
  | ok segments =>
    have hsound : (∀ segment ∈ segments, Segment.broken? E segment = none) ↔
        segments.findSome? (Segment.broken? E) = none := List.findSome?_eq_none_iff.symm
    simp only [Except.ok.injEq, exists_eq_left', hsound, forall_compatible_iff hparsed,
      ← RouteList.conflict?_eq_none_iff (pairwise_entriesFor hlog call.method)]
    cases segments.findSome? (Segment.broken? E) with
    | some bad => simp
    | none =>
      cases (entriesFor call.method log).conflict? segments with
      | some parties => simp
      | none => simp

namespace Router

variable [Constraint E]

/-! ## Runs -/

/-- Every call of a run succeeds. -/
def Succeeds (router : Router E H) : List (Call H) → Prop
  | [] => True
  | call :: rest =>
    (router.answer call).outcome = .ok () ∧ (router.answer call).router.Succeeds rest

theorem Tracks.answer_eq_ok_iff {router : Router E H} {log : List (Call H)}
    (htracks : router.Tracks log) (hlog : log.Pairwise Call.Compatible) (call : Call H) :
    (router.answer call).outcome = .ok () ↔
      call.Sound E ∧ ∀ earlier ∈ log, earlier.Compatible call := by
  rw [answer, htracks.outcome_eq_verdict]
  exact verdict_eq_ok_iff hlog call

theorem pairwise_append_call {log : List (Call H)} {call : Call H}
    (hlog : log.Pairwise Call.Compatible) (hcall : ∀ earlier ∈ log, earlier.Compatible call) :
    (log ++ [call]).Pairwise Call.Compatible := by
  refine List.pairwise_append.mpr ⟨hlog, List.pairwise_singleton _ _, fun earlier hearlier => ?_⟩
  rw [List.forall_mem_singleton]
  exact hcall earlier hearlier

/-- The calls of a run that succeed are compatible with each other. -/
theorem Tracks.pairwise_accepted {router : Router E H} {log : List (Call H)}
    (htracks : router.Tracks log) (hlog : log.Pairwise Call.Compatible) (calls : List (Call H)) :
    (log ++ router.accepted calls).Pairwise Call.Compatible := by
  induction calls generalizing router log with
  | nil =>
    rw [accepted, List.append_nil]
    exact hlog
  | cons call rest ih =>
    rw [accepted]
    cases houtcome : (router.answer call).outcome with
    | ok done =>
      have hcall := ((htracks.answer_eq_ok_iff hlog call).mp houtcome).2
      have hnext := ih (htracks.register_of_ok houtcome) (pairwise_append_call hlog hcall)
      rw [List.append_assoc] at hnext
      exact hnext
    | error error =>
      have hsame : (router.answer call).router = router :=
        htracks.register_eq_self_of_error houtcome
      rw [hsame]
      exact ih htracks hlog

/-- After compatible calls, all further calls succeed exactly when they are sound and compatible
with the calls before them. -/
theorem Tracks.succeeds_iff {router : Router E H} {log : List (Call H)} (htracks : router.Tracks log)
    (hlog : log.Pairwise Call.Compatible) (calls : List (Call H)) :
    router.Succeeds calls ↔ (∀ call ∈ calls, call.Sound E) ∧ calls.Pairwise Call.Compatible ∧
      ∀ earlier ∈ log, ∀ call ∈ calls, earlier.Compatible call := by
  induction calls generalizing router log with
  | nil => simp [Succeeds]
  | cons call rest ih =>
    rw [Succeeds, List.forall_mem_cons, List.pairwise_cons]
    simp only [List.forall_mem_cons]
    constructor
    · rintro ⟨hok, hrest⟩
      obtain ⟨hsound, hcall⟩ := (htracks.answer_eq_ok_iff hlog call).mp hok
      obtain ⟨hsounds, hpairs, hearlier⟩ :=
        (ih (htracks.register_of_ok hok) (pairwise_append_call hlog hcall)).mp hrest
      refine ⟨⟨hsound, hsounds⟩, ⟨hearlier call (by simp), hpairs⟩, fun earlier hmem => ?_⟩
      exact ⟨hcall earlier hmem, hearlier earlier (List.mem_append_left _ hmem)⟩
    · rintro ⟨⟨hsound, hsounds⟩, ⟨hcall, hpairs⟩, hearlier⟩
      have hbefore : ∀ earlier ∈ log, earlier.Compatible call := fun earlier hmem =>
        (hearlier earlier hmem).1
      have hok := (htracks.answer_eq_ok_iff hlog call).mpr ⟨hsound, hbefore⟩
      refine ⟨hok, (ih (htracks.register_of_ok hok) (pairwise_append_call hlog hbefore)).mpr
        ⟨hsounds, hpairs, fun earlier hmem => ?_⟩⟩
      rcases List.mem_append.mp hmem with hold | hnew
      · exact (hearlier earlier hold).2
      · rw [List.mem_singleton.mp hnew]
        exact hcall

/-- On an empty router all calls of a list succeed exactly when each of them is sound and any two of
them are compatible. -/
theorem succeeds_iff_compatible (config : Config) (calls : List (Call H)) :
    (empty config : Router E H).Succeeds calls ↔
      (∀ call ∈ calls, call.Sound E) ∧ calls.Pairwise Call.Compatible := by
  rw [(tracks_empty config).succeeds_iff List.Pairwise.nil]
  simp

theorem succeeds_pair_iff (config : Config) (first second : Call H) :
    (empty config : Router E H).Succeeds [first, second] ↔
      first.Sound E ∧ second.Sound E ∧ first.Compatible second := by
  rw [succeeds_iff_compatible]
  simp [and_assoc]

/-- On an empty router all calls of a list succeed exactly when each of them does alone and any two
of them do together; and two calls succeed in one order exactly when they do in the other. -/
theorem succeeds_iff_pairwise (config : Config) :
    (∀ calls : List (Call H), (empty config : Router E H).Succeeds calls ↔
      (∀ call ∈ calls, (empty config : Router E H).Succeeds [call]) ∧
      ∀ (i j : Nat) (first second : Call H), i ≠ j →
        calls[i]? = some first → calls[j]? = some second →
        (empty config : Router E H).Succeeds [first, second]) ∧
    ∀ first second : Call H, (empty config : Router E H).Succeeds [first, second] ↔
      (empty config : Router E H).Succeeds [second, first] := by
  have halone : ∀ call : Call H, (empty config : Router E H).Succeeds [call] ↔ call.Sound E := by
    intro call
    rw [succeeds_iff_compatible]
    simp
  constructor
  · intro calls
    simp only [halone, succeeds_pair_iff]
    rw [succeeds_iff_compatible, List.pairwise_iff_getElem]
    constructor
    · rintro ⟨hsound, hpairs⟩
      refine ⟨hsound, fun i j first second hne hfirst hsecond => ?_⟩
      obtain ⟨hi, rfl⟩ := List.getElem?_eq_some_iff.mp hfirst
      obtain ⟨hj, rfl⟩ := List.getElem?_eq_some_iff.mp hsecond
      refine ⟨hsound _ (List.getElem_mem hi), hsound _ (List.getElem_mem hj), ?_⟩
      rcases Nat.lt_or_gt_of_ne hne with hlt | hgt
      · exact hpairs i j hi hj hlt
      · exact (hpairs j i hj hi hgt).symm
    · rintro ⟨hsound, hpairs⟩
      refine ⟨hsound, fun i j hi hj hlt => ?_⟩
      exact (hpairs i j _ _ (Nat.ne_of_lt hlt) (List.getElem?_eq_getElem hi)
        (List.getElem?_eq_getElem hj)).2.2
  · intro first second
    rw [succeeds_pair_iff, succeeds_pair_iff]
    exact ⟨fun ⟨hfirst, hsecond, hpair⟩ => ⟨hsecond, hfirst, hpair.symm⟩,
      fun ⟨hsecond, hfirst, hpair⟩ => ⟨hfirst, hsecond, hpair.symm⟩⟩

end Router

end PathRouting
