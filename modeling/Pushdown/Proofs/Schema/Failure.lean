import Pushdown.Proofs.Schema.SingleFlight

/-!
# A cache after a fetch that failed

An errand whose fetch fails has looked and no more. Its first look may have dropped its own entry as
expired; every other entry is where it was, with the snapshot, the time and the time to live it was
stored with (`SchemaCache.entries_serve_error`). What looks see of a cache is what is fresh in it,
so a cache without an entry that has expired by now is as good as the one with it
(`SchemaCache.Spares`): a look finds the same in both and leaves them so (`SchemaCache.Spares.get`),
and so does every run of looks (`SchemaCache.Spares.getEach`).
-/

namespace Pushdown

namespace SchemaCache

variable {c c' : SchemaCache} {errand : Errand} {identity : Identity} {now later : Nat}

/-! ## Fresh entries -/

/-- The entry of an identity, if it has not expired. -/
def freshAt? (c : SchemaCache) (identity : Identity) (now : Nat) : Option Entry :=
  (c.entries.find? identity).filter fun entry => !entry.isExpired now

/-- The number of entries that have not expired. -/
def freshSize (c : SchemaCache) (now : Nat) : Nat :=
  c.entries.entries.countP fun stored => !stored.2.isExpired now

/-- What has expired stays so. -/
theorem Entry.isExpired_mono {entry : Entry} (hle : now ≤ later)
    (h : entry.isExpired now = true) : entry.isExpired later = true := by
  simp only [Entry.isExpired, decide_eq_true_eq] at h ⊢
  omega

theorem freshAt?_of_expired {entry : Entry} (hfind : c.entries.find? identity = some entry)
    (hexpired : entry.isExpired now = true) : c.freshAt? identity now = none := by
  rw [freshAt?, hfind, Option.filter_some, hexpired]
  rfl

theorem freshAt?_of_fresh {entry : Entry} (hfind : c.entries.find? identity = some entry)
    (hfresh : entry.isExpired now = false) : c.freshAt? identity now = some entry := by
  rw [freshAt?, hfind, Option.filter_some, hfresh]
  rfl

theorem freshAt?_of_none (hfind : c.entries.find? identity = none) :
    c.freshAt? identity now = none := by
  rw [freshAt?, hfind, Option.filter_none]

/-- A look finds the snapshot of the fresh entry. -/
theorem get_fst (c : SchemaCache) (identity : Identity) (now : Nat) :
    (c.get identity now).1 = (c.freshAt? identity now).map (·.snapshot) := by
  obtain ⟨hfind, hget⟩ | ⟨entry, hfind, hexpired, hget⟩ | ⟨entry, hfind, hexpired, hget⟩ :=
    get_cases c identity now
  · rw [hget, freshAt?_of_none hfind, Option.map_none]
  · rw [hget, freshAt?_of_expired hfind hexpired, Option.map_none]
  · rw [hget, freshAt?_of_fresh hfind hexpired, Option.map_some]

/-- A look leaves the fresh entry of its identity, and all others. -/
theorem find?_get (c : SchemaCache) (identity : Identity) (now : Nat) (other : Identity) :
    (c.get identity now).2.entries.find? other
      = if other = identity then c.freshAt? identity now else c.entries.find? other := by
  obtain ⟨hfind, hget⟩ | ⟨entry, hfind, hexpired, hget⟩ | ⟨entry, hfind, hexpired, hget⟩ :=
    get_cases c identity now
  · have hsame : (c.get identity now).2.entries = c.entries := by rw [hget]; rfl
    rw [hsame]
    split
    · next heq => rw [heq, hfind, freshAt?_of_none hfind]
    · rfl
  · have herased : (c.get identity now).2.entries = c.entries.erase identity := by rw [hget]; rfl
    rw [herased]
    split
    · next heq => rw [heq, Recent.find?_erase_self, freshAt?_of_expired hfind hexpired]
    · next hne => exact Recent.find?_erase_of_ne hne
  · have htouched : (c.get identity now).2.entries = c.entries.touch identity := by rw [hget]; rfl
    rw [htouched, Recent.find?_touch]
    split
    · next heq => rw [heq, hfind, freshAt?_of_fresh hfind hexpired]
    · rfl

/-! ## What looks can tell apart -/

/-- A cache lacks nothing of another one but entries that have expired by now. -/
def Spares (now : Nat) (c c' : SchemaCache) : Prop :=
  ∀ identity, c'.entries.find? identity = c.entries.find? identity
    ∨ c'.entries.find? identity = none
      ∧ ∃ entry, c.entries.find? identity = some entry ∧ entry.isExpired now = true

/-- From now on the same is fresh. -/
theorem Spares.freshAt?_eq (h : Spares now c c') (hle : now ≤ later) (identity : Identity) :
    c'.freshAt? identity later = c.freshAt? identity later := by
  rcases h identity with hsame | ⟨hnone, entry, hentry, hexpired⟩
  · rw [freshAt?, hsame, freshAt?]
  · rw [freshAt?_of_none hnone,
      freshAt?_of_expired hentry (Entry.isExpired_mono hle hexpired)]

/-- A look finds the same, and leaves nothing more to tell apart. -/
theorem Spares.get (h : Spares now c c') (hle : now ≤ later) (identity : Identity) :
    (c'.get identity later).1 = (c.get identity later).1
      ∧ Spares later (c.get identity later).2 (c'.get identity later).2 := by
  have hfresh := h.freshAt?_eq hle identity
  refine ⟨by rw [get_fst, get_fst, hfresh], fun other => ?_⟩
  rw [find?_get, find?_get, hfresh]
  split
  · exact .inl rfl
  · obtain hsame | ⟨hnone, entry, hentry, hexpired⟩ := h other
    · exact .inl hsame
    · exact .inr ⟨hnone, entry, hentry, Entry.isExpired_mono hle hexpired⟩

/-- Several looks, one after the other. -/
def getEach (c : SchemaCache) : List (Identity × Nat) → List (Option Snapshot) × SchemaCache
  | [] => ([], c)
  | (identity, now) :: looks =>
    ((c.get identity now).1 :: ((c.get identity now).2.getEach looks).1,
      ((c.get identity now).2.getEach looks).2)

/-- However often one looks, in order of time, the same is found, and the same is fresh in the
end. -/
theorem Spares.getEach (h : Spares now c c') {looks : List (Identity × Nat)}
    (htimes : (now :: looks.map Prod.snd).Pairwise (· ≤ ·)) :
    (c'.getEach looks).1 = (c.getEach looks).1
      ∧ ∀ later, (∀ time ∈ now :: looks.map Prod.snd, time ≤ later) → ∀ identity,
          (c'.getEach looks).2.freshAt? identity later
            = (c.getEach looks).2.freshAt? identity later := by
  induction looks generalizing now c c' with
  | nil => exact ⟨rfl, fun later hlater => h.freshAt?_eq (hlater now List.mem_cons_self)⟩
  | cons look looks ih =>
    obtain ⟨identity, time⟩ := look
    obtain ⟨hnow, hrest⟩ := List.pairwise_cons.1 htimes
    obtain ⟨hfound, hafter⟩ := h.get (hnow time List.mem_cons_self) identity
    obtain ⟨hothers, hfresh⟩ := ih hafter hrest
    refine ⟨congrArg₂ List.cons hfound hothers, fun later hlater => hfresh later ?_⟩
    exact fun t ht => hlater t (List.mem_cons_of_mem _ ht)

/-! ## A fetch that fails -/

/-- An errand whose fetch fails stores nothing. -/
theorem pursue_error {cause : Failure} {rechecked settled : Nat}
    (h : (c.pursue errand (.error cause) rechecked settled).1.isFetched = true) :
    c.pursue errand (.error cause) rechecked settled
      = (.served (.error cause) true, (c.recheck errand rechecked).2) := by
  unfold pursue at h ⊢
  split at h
  · cases h
  · next c' hrecheck =>
    rw [hrecheck]
    rfl

/-- Only a fetch makes an errand fail, by its own failure. -/
theorem eq_error_of_serve {fetched : Except Failure Schema} {cause : Failure} {ran : Bool}
    {consulted rechecked settled : Nat}
    (h : (c.serve errand fetched consulted rechecked settled).1 = .served (.error cause) ran) :
    fetched = .error cause ∧ ran = true := by
  unfold serve at h
  split at h
  · cases h
  · unfold pursue at h
    split at h
    · cases h
    · cases fetched with
      | ok schema => cases h
      | error cause =>
        cases h
        exact ⟨rfl, rfl⟩

/-- Whether the first look of an errand drops an entry as expired. -/
def dropsOwn (c : SchemaCache) (errand : Errand) (now : Nat) : Prop :=
  errand.aim = .fresh
    ∧ ∃ entry, c.entries.find? errand.identity = some entry ∧ entry.isExpired now = true

variable {cause : Failure} {consulted rechecked settled : Nat}

/-- An errand whose fetch fails answers the failure, and has dropped its own entry as expired or
only looked. -/
theorem entries_serve_error
    (h : (c.serve errand (.error cause) consulted rechecked settled).1.isFetched = true) :
    (c.serve errand (.error cause) consulted rechecked settled).1 = .served (.error cause) true
      ∧ (c.dropsOwn errand consulted
            ∧ (c.serve errand (.error cause) consulted rechecked settled).2.entries
              = c.entries.erase errand.identity
          ∨ ¬c.dropsOwn errand consulted
            ∧ (c.serve errand (.error cause) consulted rechecked settled).2.entries
              = c.entries.touch errand.identity) := by
  obtain ⟨haim, heq⟩ | ⟨haim, heq⟩ :=
    serve_cases c errand (.error cause) consulted rechecked settled
  · rw [heq] at h ⊢
    rw [pursue_error h]
    exact ⟨rfl, .inr ⟨fun hdrops => haim hdrops.1, entries_recheck c errand rechecked⟩⟩
  rw [heq] at h ⊢
  obtain ⟨hfind, hget⟩ | ⟨entry, hfind, hexpired, hget⟩ | ⟨entry, hfind, hexpired, hget⟩ :=
    get_cases c errand.identity consulted
  · simp only [hget] at h ⊢
    rw [pursue_error h]
    refine ⟨rfl, .inr ⟨?_, entries_recheck c.countMiss errand rechecked⟩⟩
    rintro ⟨-, entry, hentry, -⟩
    rw [hfind] at hentry
    cases hentry
  · simp only [hget] at h ⊢
    rw [pursue_error h]
    refine ⟨rfl, .inl ⟨⟨haim, entry, hfind, hexpired⟩, ?_⟩⟩
    have hgone : (c.entries.erase errand.identity).touch errand.identity
        = c.entries.erase errand.identity := by
      rw [Recent.touch, Recent.find?_erase_self]
    exact (entries_recheck _ errand rechecked).trans hgone
  · simp only [hget] at h
    cases h

/-- What an errand whose fetch failed leaves is found as before, but for its own entry if that had
expired when the errand began. -/
theorem find?_serve_error
    (h : (c.serve errand (.error cause) consulted rechecked settled).1.isFetched = true)
    (identity : Identity) :
    (c.serve errand (.error cause) consulted rechecked settled).2.entries.find? identity
        = c.entries.find? identity
      ∨ identity = errand.identity ∧ c.dropsOwn errand consulted
        ∧ (c.serve errand (.error cause) consulted rechecked settled).2.entries.find? identity
          = none := by
  obtain ⟨-, ⟨hdrops, hentries⟩ | ⟨-, hentries⟩⟩ := entries_serve_error h
  · rw [hentries]
    by_cases heq : identity = errand.identity
    · exact .inr ⟨heq, hdrops, heq ▸ Recent.find?_erase_self ..⟩
    · exact .inl (Recent.find?_erase_of_ne heq)
  · rw [hentries]
    exact .inl (Recent.find?_touch ..)

/-- So looks cannot tell that there was such an errand. -/
theorem spares_serve_error
    (h : (c.serve errand (.error cause) consulted rechecked settled).1.isFetched = true) :
    Spares consulted c (c.serve errand (.error cause) consulted rechecked settled).2 := by
  intro identity
  rcases find?_serve_error h identity with hsame | ⟨rfl, ⟨-, hexpired⟩, hnone⟩
  · exact .inl hsame
  · exact .inr ⟨hnone, hexpired⟩

/-- What an errand whose fetch failed leaves, and its own entry if it has dropped that, is what
there was. -/
theorem perm_serve_error (hsound : c.entries.Sound)
    (h : (c.serve errand (.error cause) consulted rechecked settled).1.isFetched = true) :
    (¬c.dropsOwn errand consulted
        ∧ (c.serve errand (.error cause) consulted rechecked settled).2.entries.entries.Perm
          c.entries.entries)
      ∨ c.dropsOwn errand consulted ∧ ∃ entry, entry.isExpired consulted = true
        ∧ ((errand.identity, entry)
            :: (c.serve errand (.error cause) consulted rechecked settled).2.entries.entries).Perm
          c.entries.entries := by
  obtain ⟨-, ⟨hdrops, hentries⟩ | ⟨hdrops, hentries⟩⟩ := entries_serve_error h
  · obtain ⟨entry, hfind, hexpired⟩ := hdrops.2
    refine .inr ⟨hdrops, entry, hexpired, ?_⟩
    rw [hentries]
    exact Recent.perm_erase hsound.distinct hfind
  · refine .inl ⟨hdrops, ?_⟩
    rw [hentries]
    exact Recent.perm_touch hsound.distinct _

/-- What is left of a cache after an errand, begun at some time, whose fetch failed. -/
structure SparedBy (errand : Errand) (begun : Nat) (c after : SchemaCache) : Prop where
  /-- An identity finds the entry it found before, unless that was dropped as expired. -/
  find : ∀ identity, after.entries.find? identity = c.entries.find? identity
    ∨ identity = errand.identity ∧ c.dropsOwn errand begun
      ∧ after.entries.find? identity = none
  /-- Any looks from then on, in order of time, find what they would have found, and leave fresh
  what they would have left. -/
  looks : ∀ looks : List (Identity × Nat), (begun :: looks.map Prod.snd).Pairwise (· ≤ ·) →
    (after.getEach looks).1 = (c.getEach looks).1
      ∧ ∀ later, (∀ time ∈ begun :: looks.map Prod.snd, time ≤ later) → ∀ identity,
        (after.getEach looks).2.freshAt? identity later
          = (c.getEach looks).2.freshAt? identity later
  age : ∀ identity now, ¬(identity = errand.identity ∧ c.dropsOwn errand begun) →
    after.age identity now = c.age identity now
  freshSize : ∀ now, begun ≤ now → after.freshSize now = c.freshSize now
  size : ¬c.dropsOwn errand begun → after.size = c.size
  size_dropped : c.dropsOwn errand begun → after.size + 1 = c.size

/-- A failed fetch spares everything but an expired entry of its own identity. -/
theorem sparedBy_serve_error (hsound : c.entries.Sound)
    (h : (c.serve errand (.error cause) consulted rechecked settled).1.isFetched = true) :
    SparedBy errand consulted c (c.serve errand (.error cause) consulted rechecked settled).2 where
  find := find?_serve_error h
  looks looks htimes := (spares_serve_error h).getEach htimes
  age identity now hother := by
    rcases find?_serve_error h identity with hsame | ⟨hown, hdrops, -⟩
    · rw [age, hsame, age]
    · exact absurd ⟨hown, hdrops⟩ hother
  freshSize now hnow := by
    rcases perm_serve_error hsound h with ⟨-, hperm⟩ | ⟨-, entry, hexpired, hperm⟩
    · exact hperm.countP_eq _
    · have hdropped := hperm.countP_eq fun stored => !stored.2.isExpired now
      rw [List.countP_cons_of_neg (by simp [Entry.isExpired_mono hnow hexpired])] at hdropped
      exact hdropped
  size hdrops := by
    rcases perm_serve_error hsound h with ⟨-, hperm⟩ | ⟨hdrops', -⟩
    · exact hperm.length_eq
    · exact absurd hdrops' hdrops
  size_dropped hdrops := by
    rcases perm_serve_error hsound h with ⟨hdrops', -⟩ | ⟨-, entry, -, hperm⟩
    · exact absurd hdrops hdrops'
    · exact hperm.length_eq

end SchemaCache

end Pushdown
