import Pushdown.Proofs.Search.Answers
import Pushdown.Proofs.Stream.OffsetPages

/-!
# Paging by group key

A search for groups is walked by their keys: the body of a page says how many groups it wants and,
from the second page on, the key they come after (`Search.groupsAsked?`). A server that holds some
groups answers with those that follow the key, and may or may not name the last key of the page in
its response (`Peer.GroupsOf`). `Peer.handsOut_groups` is that the stream of a grouped plan hands
out every group once, in order: the body of a page asks for what follows the last group of the page
before it, whichever way the key of that group was learned.
-/

namespace Pushdown

/-- Whether an event is a query sent. -/
def StreamEvent.isQuery : StreamEvent → Bool
  | .executed _ | .asked .. => true
  | _ => false

/-- The number of queries sent in a history. -/
def queriesIn (history : List StreamEvent) : Nat :=
  history.countP StreamEvent.isQuery

namespace Search

/-- How many groups a body asks for, and the key they are to come after. -/
def groupsAsked? (body : Json) : Option (Int × Option Json) :=
  match body.at? (compositePath "size") with
  | some (.int size) => some (size, body.at? (compositePath "after"))
  | _ => none

/-- The key of a group. -/
def groupKey? (bucket : Json) : Option Json :=
  bucket.get? "key"

/-- The groups that come after a key, or all of them. -/
def Follows (buckets : List Json) : Option Json → List Json → Prop
  | none, later => later = buckets
  | some key, later => ∃ earlier bucket,
    buckets = earlier ++ bucket :: later ∧ groupKey? bucket = some key

/-- A response holds a page of groups. It may name the key of the last one. -/
def HoldsGroups (response : Json) (page : List Json) : Prop :=
  ∃ groups, response.at? ["aggregations", groupsName] = some groups
    ∧ groups.get? "buckets" = some (.list page)
    ∧ ∀ key, groups.get? "after_key" = some key → page.getLast?.bind groupKey? = some key

/-- The page of some groups. -/
def groupPage (page : List Json) : Page :=
  ⟨page.map bucketRow, (page.getLast?.bind groupKey?).map .afterKey⟩

end Search

/-- A peer answers a search for groups with as many as it asks for of those that come after the key
it names. -/
def Peer.GroupsOf (peer : Peer) (buckets : List Json) : Prop :=
  ∀ n index body mode size after, Search.groupsAsked? body = some (size, after) →
    (∃ later, Search.Follows buckets after later) →
    ∃ later response, Search.Follows buckets after later
      ∧ Search.HoldsGroups response (later.take size.toNat)
      ∧ peer.page n (.search index body mode) = some (Search.pageOfResponse mode response)

namespace Search

/-! ## What a body asks for -/

/-- The body of a search for groups names no key. -/
theorem at?_after_groupsBody (plan : Plan) (query : Json) :
    (groupsBody plan query).at? (compositePath "after") = none :=
  at?_composite_groupsBody plan query "after"

/-- The body of a page asks for a batch of groups after the key given. -/
theorem groupsAsked?_pageOf (plan : Plan) (query : Json) (after : Option Json) (b : Nat) :
    groupsAsked? (pageOf .composite (after.map .afterKey) b (groupsBody plan query))
      = some ((b : Int), after) := by
  have hsize (body : Json) (key : Json) :
      (body.set (compositePath "after") key).at? (compositePath "size")
        = body.at? (compositePath "size") :=
    at?_set_compositePath (by decide) (by decide) body key
  have hafter (body size : Json) :
      (body.set (compositePath "size") size).at? (compositePath "after")
        = body.at? (compositePath "after") :=
    at?_set_compositePath (by decide) (by decide) body size
  cases after with
  | none => simp [groupsAsked?, pageOf, hafter, at?_after_groupsBody]
  | some key => simp [groupsAsked?, pageOf, hsize]

/-! ## What a response brings -/

/-- A response that holds groups is read as their page: that it names the last key or leaves it out
makes no difference. -/
theorem pageOfResponse_of_holdsGroups {response : Json} {page : List Json}
    (h : HoldsGroups response page) :
    pageOfResponse .composite response = .ok (groupPage page) := by
  obtain ⟨groups, hgroups, hbuckets, hkey⟩ := h
  have hresume : resumeKey? groups page = page.getLast?.bind groupKey? := by
    unfold resumeKey?
    cases hnamed : groups.get? "after_key" with
    | none => rfl
    | some key => exact (hkey key hnamed).symm
  simp only [pageOfResponse, groupsPage, hgroups, hbuckets, Option.bind_some, Json.items?,
    Option.getD_some, hresume, groupPage]
  cases page <;> rfl

/-- What follows a key is settled if no two groups have the same key. -/
theorem Follows.unique {buckets later later' : List Json} {after : Option Json}
    (hdistinct : (buckets.map groupKey?).Nodup) (h : Follows buckets after later)
    (h' : Follows buckets after later') : later = later' := by
  cases after with
  | none => exact Eq.trans h h'.symm
  | some key =>
    obtain ⟨earlier, bucket, rfl, hkey⟩ := h
    obtain ⟨earlier', bucket', hsplit, hkey'⟩ := h'
    induction earlier generalizing earlier' with
    | nil =>
      cases earlier' with
      | nil => exact (List.cons.inj hsplit).2
      | cons first earlier' =>
        obtain ⟨rfl, rfl⟩ := List.cons.inj hsplit
        have hnot := (List.nodup_cons.1 hdistinct).1
        exact absurd (by simp [hkey, hkey']) hnot
    | cons first earlier ih =>
      cases earlier' with
      | nil =>
        obtain ⟨rfl, rfl⟩ := List.cons.inj hsplit
        have hnot := (List.nodup_cons.1 hdistinct).1
        exact absurd (by simp [hkey, hkey']) hnot
      | cons first' earlier' =>
        exact ih (List.nodup_cons.1 hdistinct).2 earlier' (List.cons.inj hsplit).2

/-- After the last of some groups come the others. -/
theorem follows_drop {buckets : List Json} {m : Nat} {bucket key : Json}
    (hlast : (buckets.take m).getLast? = some bucket) (hkey : groupKey? bucket = some key) :
    Follows buckets (some key) (buckets.drop m) := by
  refine ⟨(buckets.take m).dropLast, bucket, ?_, hkey⟩
  rw [← List.singleton_append, ← List.append_assoc, List.dropLast_append_getLast? _ hlast,
    List.take_append_drop]

end Search

/-! ## The queries of a stream -/

section
variable {compiled : CompiledQuery} {batchSize : Nat} {pages : Nat → Page}

theorem queriesIn_append (history history' : List StreamEvent) :
    queriesIn (history ++ history') = queriesIn history + queriesIn history' :=
  List.countP_append

/-- Up to the last row of a page one query has been sent for every page. -/
theorem queriesIn_shownThrough {k : Nat}
    (hopen : ∀ j < k, ¬ (pages j).IsLast compiled.strategy batchSize) :
    queriesIn (shownThrough compiled batchSize pages k) = k + 1 := by
  have hrows (k : Nat) : queriesIn (emitting compiled pages k) = 0 :=
    List.countP_eq_zero.2 (by simp [emitting, StreamEvent.isQuery])
  induction k with
  | zero =>
    rw [shownThrough, ← List.singleton_append, queriesIn_append, hrows]
    rfl
  | succ k ih =>
    obtain ⟨continuation, hf⟩ := followUp_eq_some (hopen k (Nat.lt_succ_self k))
    rw [shownThrough, queriesIn_append, queriesIn_append, hrows,
      ih fun j hj => hopen j (Nat.lt_succ_of_lt hj), askingAfter_eq hf]
    rfl

theorem queriesIn_releasing (cursor : Option Continuation) :
    queriesIn (Peer.releasing cursor) = 0 := by
  cases cursor <;> rfl

end

namespace Search

variable {plan : Plan} {buckets : List Json} {b k : Nat}

/-- The compiled query of a plan with groups. -/
theorem compile_of_grouped (hshape : plan.shape = .grouped) :
    compile plan
      = { backend := .elasticsearch
          native := .search plan.datasetName
            (groupsBody plan (Clause.ofConjunction plan.predicates).toJson) .composite
          groupCount := plan.groupCount
          shape := .grouped
          strategy := .afterKey
          outputs := plan.outputs .places } := by
  simp [compile, hshape]

variable (buckets b) in
/-- The pages of some groups. -/
def groupPages (k : Nat) : Page :=
  groupPage ((buckets.drop (k * b)).take b)

variable (buckets b) in
/-- The key of the last group before a page. -/
def keyBefore (k : Nat) : Option Json :=
  (buckets.take (k * b)).getLast?.bind groupKey?

/-- After a page with groups the stream goes on by the key of its last group. -/
theorem continuation_groupPages (hpage : (buckets.drop (k * b)).take b ≠ []) :
    (groupPages buckets b k).continuation = (keyBefore buckets b (k + 1)).map .afterKey := by
  obtain ⟨bucket, hlast⟩ := Option.ne_none_iff_exists'.1 (mt List.getLast?_eq_none_iff.1 hpage)
  rw [groupPages, keyBefore, Nat.succ_mul, List.take_add, List.getLast?_append, hlast]
  simp [groupPage, hlast]

/-- The query for a page asks for the groups after the key of the last group before it. -/
theorem queryFor_groupPages (hshape : plan.shape = .grouped)
    (hfull : ∀ j < k, (buckets.drop (j * b)).take b ≠ []) :
    queryFor (compile plan) b (groupPages buckets b) k
      = .search plan.datasetName
          (pageOf .composite ((keyBefore buckets b k).map .afterKey) b
            (groupsBody plan (Clause.ofConjunction plan.predicates).toJson)) .composite := by
  cases k with
  | zero =>
    rw [queryFor, compile_of_grouped hshape, keyBefore, Nat.zero_mul]
    rfl
  | succ k =>
    have hcontinuation := continuation_groupPages (hfull k (Nat.lt_succ_self k))
    rw [queryFor, compile_of_grouped hshape, followUp, hcontinuation]
    rfl

/-- There is a last group before a page with groups before it, and it has a key. -/
theorem exists_keyBefore (hkeys : ∀ bucket ∈ buckets, (groupKey? bucket).isSome)
    (hne : buckets.take (k * b) ≠ []) :
    ∃ bucket key, (buckets.take (k * b)).getLast? = some bucket ∧ groupKey? bucket = some key
      ∧ keyBefore buckets b k = some key := by
  obtain ⟨bucket, hlast⟩ := Option.ne_none_iff_exists'.1 (mt List.getLast?_eq_none_iff.1 hne)
  have hmem : bucket ∈ buckets := List.mem_of_mem_take (List.mem_of_getLast? hlast)
  obtain ⟨key, hkey⟩ := Option.isSome_iff_exists.1 (hkeys bucket hmem)
  exact ⟨bucket, key, hlast, hkey, by rw [keyBefore, hlast, Option.bind_some, hkey]⟩

/-- What comes after the last group before a page begins with the groups of the page. -/
theorem follows_keyBefore (hkeys : ∀ bucket ∈ buckets, (groupKey? bucket).isSome)
    (hk : k * b ≤ buckets.length) :
    Follows buckets (keyBefore buckets b k) (buckets.drop (k * b)) := by
  by_cases hnil : buckets.take (k * b) = []
  · have hlength := congrArg List.length hnil
    rw [List.length_take, Nat.min_eq_left hk, List.length_nil] at hlength
    rw [keyBefore, hlength]
    rfl
  · obtain ⟨bucket, key, hlast, hkey, hbefore⟩ := exists_keyBefore hkeys hnil
    rw [hbefore]
    exact follows_drop hlast hkey

/-- A full page of groups is not the last one. -/
theorem not_isLast_groupPages (hb : 0 < b)
    (hkeys : ∀ bucket ∈ buckets, (groupKey? bucket).isSome)
    (hfull : ((buckets.drop (k * b)).take b).length = b) :
    ¬ (groupPages buckets b k).IsLast .afterKey b := by
  have hpage : (buckets.drop (k * b)).take b ≠ [] := by
    intro hnil
    rw [hnil] at hfull
    exact Nat.ne_of_lt hb hfull
  have hbefore : buckets.take ((k + 1) * b) ≠ [] := by
    rw [Nat.succ_mul, List.take_add]
    exact fun hnil => hpage (List.append_eq_nil_iff.1 hnil).2
  obtain ⟨-, key, -, -, hkey⟩ := exists_keyBefore hkeys hbefore
  rintro (h | h | ⟨-, h⟩)
  · cases h
  · rw [groupPages, groupPage, List.length_map, hfull] at h
    exact Nat.lt_irrefl b h
  · rw [continuation_groupPages hpage, hkey] at h
    cases h

end Search

namespace Peer

variable {peer : Peer} {config : Config} {plan : Plan} {buckets : List Json}

/-- A peer that holds some groups serves them page by page, up to the first page that is not
full. -/
theorem serves_groupPages (hshape : plan.shape = .grouped) (hb : 0 < config.batchSize)
    (hkind : peer.kind = .elasticsearch)
    (hkeys : ∀ bucket ∈ buckets, (Search.groupKey? bucket).isSome)
    (hdistinct : (buckets.map Search.groupKey?).Nodup) (hpeer : peer.GroupsOf buckets) :
    peer.Serves config (Search.compile plan) (Search.groupPages buckets config.batchSize)
      (buckets.length / config.batchSize) := by
  obtain ⟨hfull, -⟩ := length_drop_take buckets hb
  have hpiece (k : Nat) (hk : k < buckets.length / config.batchSize) :
      (buckets.drop (k * config.batchSize)).take config.batchSize ≠ [] := by
    intro hnil
    have hlength := hfull k hk
    rw [hnil] at hlength
    exact Nat.ne_of_lt hb hlength
  refine ⟨by rw [hkind, Search.compile_of_grouped hshape], fun k hk => ?_, fun k hk => ?_⟩
  · have hle : k * config.batchSize ≤ buckets.length := (Nat.le_div_iff_mul_le hb).1 hk
    have hfollows := Search.follows_keyBefore hkeys hle
    rw [Search.queryFor_groupPages hshape fun j hj => hpiece j (Nat.lt_of_lt_of_le hj hk)]
    obtain ⟨later, response, hlater, hholds, hpage⟩ :=
      hpeer k plan.datasetName _ .composite _ _ (Search.groupsAsked?_pageOf ..) ⟨_, hfollows⟩
    obtain rfl := Search.Follows.unique hdistinct hlater hfollows
    rw [hpage, Search.pageOfResponse_of_holdsGroups hholds]
    rfl
  · rw [Search.compile_of_grouped hshape]
    exact Search.not_isLast_groupPages hb hkeys (hfull k hk)

/-- **Paging by group key visits every group once.** Let a peer hold groups that have keys of their
own, and answer a search with as many as it asks for of those that come after the key it names,
whether or not its response names the key of the last one. Then the stream of a grouped plan ends,
having handed out every group once, in order, whatever the batch size. One query has been sent for
every full page and one more. -/
theorem handsOut_groups (hshape : plan.shape = .grouped) (hb : 0 < config.batchSize)
    (hkind : peer.kind = .elasticsearch)
    (hkeys : ∀ bucket ∈ buckets, ∃ key, Search.groupKey? bucket = some (.object key))
    (hdistinct : (buckets.map Search.groupKey?).Nodup) (hpeer : peer.GroupsOf buckets) :
    ∃ shown, peer.ComesToRest config (Search.compile plan) .finished (shown ++ [.ended])
      ∧ emittedIn shown
          = (buckets.map Search.bucketRow).map (normalize (plan.outputs .places))
      ∧ queriesIn shown = buckets.length / config.batchSize + 1 := by
  have hsome : ∀ bucket ∈ buckets, (Search.groupKey? bucket).isSome := fun bucket hbucket =>
    Option.isSome_iff_exists.2 ⟨_, (hkeys bucket hbucket).choose_spec⟩
  have hserves := serves_groupPages hshape hb hkind hsome hdistinct hpeer
  obtain ⟨-, hlast⟩ := length_drop_take buckets hb
  have hisLast : (Search.groupPages buckets config.batchSize
      (buckets.length / config.batchSize)).IsLast (Search.compile plan).strategy
      config.batchSize := by
    refine .inr (.inl ?_)
    rw [Search.groupPages, Search.groupPage, List.length_map]
    exact hlast
  refine ⟨_, comesToRest_of_isLast hb hserves hisLast, ?_, ?_⟩
  · have hbrought (k : Nat) :
        (rowsBrought (Search.compile plan) (Search.groupPages buckets config.batchSize) k).map
            (normalize (Search.compile plan).outputs)
          = (((buckets.drop (k * config.batchSize)).take config.batchSize).map
              Search.bucketRow).map (normalize (plan.outputs .places)) := by
      rw [Search.compile_of_grouped hshape]
      cases k <;> simp [rowsBrought, Search.groupPages, Search.groupPage]
    have hlt : buckets.length ≤ (buckets.length / config.batchSize + 1) * config.batchSize := by
      rw [Nat.succ_mul]
      exact Nat.le_of_lt (Nat.lt_div_mul_add hb)
    rw [emittedIn_append, emittedIn_shownThrough, releasingAfter, emittedIn_releasing,
      List.append_nil, List.map_flatMap, funext hbrought, ← List.map_flatMap, ← List.map_flatMap,
      flatMap_drop_take, List.take_of_length_le hlt]
  · rw [queriesIn_append, queriesIn_shownThrough hserves.goesOn, releasingAfter,
      queriesIn_releasing]

section

/-- The plan that groups the rows of a dataset by a column. -/
def tagGroupsPlan : Plan := ⟨"tags", "tags", [.column tagColumn none], [], true⟩

/-- The group of a tag. -/
def tagBucket (tag : String) (count : Int) : Json :=
  .object [("doc_count", .int count), ("key", .single "c0" (.text tag))]

def newTags : Json := tagBucket "new" 2

def oldTags : Json := tagBucket "old" 1

/-- A response that names the last key if it is the first one, and leaves it out later. -/
def tagResponse (n : Nat) (page : List Json) : Json :=
  .single "aggregations" (.single Search.groupsName (.object
    (match n, page.getLast?.bind Search.groupKey? with
      | 0, some key => [("after_key", key), ("buckets", .list page)]
      | _, _ => [("buckets", .list page)])))

/-- The peer that holds two groups. -/
def tagGroupsPeer : Peer where
  kind := .elasticsearch
  page n query :=
    match query with
    | .search _ body mode =>
      (Search.groupsAsked? body).map fun asked =>
        let later :=
          if asked.2 = none then [newTags, oldTags]
          else if asked.2 = Search.groupKey? newTags then [oldTags]
          else []
        Search.pageOfResponse mode (tagResponse n (later.take asked.1.toNat))
    | _ => none
  release _ := .ok ()

theorem holdsGroups_tagResponse (n : Nat) (page : List Json) :
    Search.HoldsGroups (tagResponse n page) page := by
  refine ⟨_, rfl, ?_, fun key hkey => ?_⟩
  · split <;> rfl
  · split at hkey
    · next hlast => exact hlast.trans hkey
    · cases hkey

/-- With room for one group in a page two groups take three queries. -/
theorem handsOut_groups_tagGroupsPeer :
    ∃ shown, tagGroupsPeer.ComesToRest { Config.default with batchSize := 1 }
        (Search.compile tagGroupsPlan) .finished (shown ++ [.ended])
      ∧ emittedIn shown = [[.text "new"], [.text "old"]]
      ∧ queriesIn shown = 3 := by
  have hpeer : tagGroupsPeer.GroupsOf [newTags, oldTags] := by
    intro n index body mode size after hasked hfollows
    have hpage (later : List Json) (hlater : later = if after = none then [newTags, oldTags]
        else if after = Search.groupKey? newTags then [oldTags] else []) :
        tagGroupsPeer.page n (.search index body mode)
          = some (Search.pageOfResponse mode (tagResponse n (later.take size.toNat))) := by
      simp only [tagGroupsPeer, hasked, hlater, Option.map_some]
    obtain ⟨later, hlater⟩ := hfollows
    refine ⟨later, _, hlater, holdsGroups_tagResponse n _, hpage later ?_⟩
    cases after with
    | none => exact hlater
    | some key =>
      obtain ⟨earlier, bucket, hsplit, hkey⟩ := hlater
      match earlier, hsplit with
      | [], hsplit =>
        obtain ⟨rfl, rfl⟩ := List.cons.inj hsplit
        rw [← hkey]
        rfl
      | [_], hsplit =>
        obtain ⟨rfl, rfl⟩ := List.cons.inj (List.cons.inj hsplit).2
        rw [← hkey]
        rfl
      | _ :: _ :: _, hsplit => simp at hsplit
  have hroom : 0 < ({ Config.default with batchSize := 1 } : Config).batchSize := Nat.zero_lt_one
  have hshape : tagGroupsPlan.shape = .grouped := by decide
  exact handsOut_groups hshape hroom rfl
    (by simp [Search.groupKey?, newTags, oldTags, tagBucket, Json.get?, Json.lookup, Json.single])
    (by decide) hpeer

end

end Peer

end Pushdown
