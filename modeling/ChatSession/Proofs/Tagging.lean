import ChatSession.Proofs.ThreadOrder
import ChatSession.Thread.System

/-!
Tagging system posts changes nothing but their flag.

`tagSystemPosts` rewrites each post through `tagPost`: a post whose author is a
key of the directory gets its flag set, every other post is kept, and the
thread's order, links and keys stay as they are. Whether a post is a system
post reads the author's roles and the post's type, never its flag
(`isSystemPost_iff`), so tagging twice is tagging once (`tagPost_tagPost`).

Threading reads of a post only its id, its root id and its creation time. A
rewrite of the posts that keeps those (`KeepsThreading`) commutes with
`groupThreads`, `readingOrder` and `orphanReplies` (`groupThreads_mapPosts`, …),
and tagging is such a rewrite. Main statement: `tagging_changes_only_flag`.
-/

namespace ChatSession

namespace Thread

/-! ### Finding the author and reading the flag -/

/-- `occursIn` is the search for a contiguous piece. -/
theorem occursIn_iff_contains (needle : List Char) : ∀ hay, occursIn needle hay = true ↔ needle <:+: hay
  | [] => by cases needle <;> simp [occursIn]
  | c :: rest => by
    rw [occursIn, Bool.or_eq_true, List.isPrefixOf_iff_prefix, occursIn_iff_contains needle rest,
      List.infix_cons_iff]

/-- The author of a post is the directory's entry under the post's `userId`. -/
theorem author?_eq_lookup (users : List (String × User)) (key : String) :
    author? users key = users.lookup key := by
  induction users with
  | nil => rfl
  | cons e users ih =>
    obtain ⟨k, a⟩ := e
    by_cases hk : key = k
    · subst hk
      simp [author?]
    · have hne : (key == k) = false := beq_eq_false_iff_ne.2 hk
      have hne' : (k == key) = false := beq_eq_false_iff_ne.2 (Ne.symm hk)
      simpa [author?, List.lookup_cons, hne, hne'] using ih

/-- A system post: its author is in the directory, its type starts with
`system_` and its author's roles contain `system`. -/
theorem isSystemPost_iff (users : List (String × User)) (p : Post) :
    isSystemPost users p = true ↔ ∃ a, users.lookup p.userId = some a ∧
      p.type.startsWith "system_" = true ∧ "system".toList <:+: a.roles.toList := by
  rw [isSystemPost, author?_eq_lookup]
  cases users.lookup p.userId with
  | none => simp
  | some a => simp [occursIn_iff_contains]

/-- The flag tagging gives a post whose author is `a`: its type starts with
`system_` and `system` occurs in the author's roles (`occursIn_iff_contains`). -/
def systemFlag (p : Post) (a : User) : Bool :=
  p.type.startsWith "system_" && occursIn "system".toList a.roles.toList

/-- Tagging keeps a post whose author is not in the directory, and sets the flag
of any other. -/
theorem tagPost_eq (users : List (String × User)) (p : Post) :
    tagPost users p = match users.lookup p.userId with
      | none => p
      | some a => { p with isSystem := systemFlag p a } := by
  rw [tagPost, isSystemPost, author?_eq_lookup]
  cases users.lookup p.userId with
  | none => rfl
  | some a => simp [systemFlag]

/-- Tagging reads nothing it writes: a tagged post is tagged again to itself. -/
theorem tagPost_tagPost (users : List (String × User)) (p : Post) :
    tagPost users (tagPost users p) = tagPost users p := by
  rcases h : users.lookup p.userId with _ | a
  · have hp : tagPost users p = p := by rw [tagPost_eq, h]
    rw [hp, hp]
  · -- the tagged post has the same author and type, so the same flag
    have hp : tagPost users p = { p with isSystem := systemFlag p a } := by rw [tagPost_eq, h]
    rw [hp, tagPost_eq]
    simp [h, systemFlag]

/-! ### Rewrites that keep what threading reads -/

/-- A rewrite of posts that keeps what threading reads: ids, root ids and
creation times. -/
structure KeepsThreading (f : Post → Post) : Prop where
  id : ∀ p, (f p).id = p.id
  rootId : ∀ p, (f p).rootId = p.rootId
  createAt : ∀ p, (f p).createAt = p.createAt

/-- The thread with each post rewritten by `f`, under its own key. -/
def mapPosts (f : Post → Post) (t : PostThread) : PostThread :=
  { t with posts := t.posts.map fun (k, p) => (k, f p) }

/-- The group with its root and each of its replies rewritten by `f`. -/
def mapGroup (f : Post → Post) (g : ThreadGroup) : ThreadGroup := ⟨f g.root, g.children.map f⟩

theorem tagPost_keepsThreading (users : List (String × User)) : KeepsThreading (tagPost users) where
  id p := by unfold tagPost; split <;> rfl
  rootId p := by unfold tagPost; split <;> rfl
  createAt p := by unfold tagPost; split <;> rfl

section keeps

variable {f : Post → Post} (hf : KeepsThreading f) (t : PostThread)
include hf

omit hf in
theorem postList_mapPosts : (mapPosts f t).postList = t.postList.map f := by
  simp [mapPosts, PostThread.postList]

theorem isRoot_comp : Post.isRoot ∘ f = Post.isRoot := by
  funext p
  simp [Post.isRoot, hf.rootId]

theorem roots_mapPosts : roots (mapPosts f t) = (roots t).map f := by
  rw [roots, roots, postList_mapPosts, List.filter_map, isRoot_comp hf]

theorem replies_mapPosts : replies (mapPosts f t) = (replies t).map f := by
  rw [replies, replies, postList_mapPosts, List.filter_map]
  congr 2
  funext p
  simp [Post.isRoot, hf.rootId]

omit t in
theorem byTime_map (ps : List Post) : byTime (ps.map f) = (byTime ps).map f :=
  (List.map_mergeSort fun a _ b _ => by simp [timeLE, hf.createAt, hf.id]).symm

theorem grouped_mapPosts : grouped (mapPosts f t) = (grouped t).map (mapGroup f) := by
  rw [grouped_eq, grouped_eq, roots_mapPosts hf, replies_mapPosts hf, byTime_map hf, byTime_map hf,
    List.map_map, List.map_map]
  refine List.map_congr_left fun r _ => ?_
  simp [mapGroup, List.filter_map, Function.comp_def, hf.rootId, hf.id]

theorem groupThreads_mapPosts :
    groupThreads (some (mapPosts f t)) = (groupThreads (some t)).map (mapGroup f) := by
  rw [groupThreads_eq, groupThreads_eq, grouped_mapPosts hf]
  exact (List.map_mergeSort fun g _ h _ => by simp [mapGroup, mapPosts, hf.id]).symm

theorem readingOrder_mapPosts :
    readingOrder (some (mapPosts f t)) = (readingOrder (some t)).map (mapGroup f) := by
  rw [readingOrder_eq, readingOrder_eq, grouped_mapPosts hf]
  exact (List.map_mergeSort fun g _ h _ => by simp [mapGroup, mapPosts, hf.id]).symm

theorem orphanReplies_mapPosts : orphanReplies (mapPosts f t) = (orphanReplies t).map f := by
  rw [orphanReplies_eq, orphanReplies_eq, roots_mapPosts hf, replies_mapPosts hf, List.filter_map,
    byTime_map hf]
  congr 2
  refine List.filter_congr fun p _ => ?_
  simp [Function.comp_def, hf.id, hf.rootId]

end keeps

/-- Tagging system posts changes nothing but the flag. The tagged thread has the
same order, links and keys; each post whose author is not in the directory is
kept, and each other post has only its flag set, to whether its type starts
with `system_` and its author's roles contain `system`. Tagging a tagged thread
again changes nothing, and the threads, the reading order and the orphans of
the tagged thread are those of the thread with each post tagged. -/
theorem tagging_changes_only_flag (users : List (String × User)) (t : PostThread) :
    let t' := tagSystemPosts users t
    t'.order = t.order ∧ t'.nextPostId = t.nextPostId ∧ t'.prevPostId = t.prevPostId ∧
      t'.hasNext = t.hasNext ∧ t'.posts.map Prod.fst = t.posts.map Prod.fst ∧
      (∀ (i : Nat) (k : String) (p : Post), t.posts[i]? = some (k, p) →
        t'.posts[i]? = some (k, match users.lookup p.userId with
          | none => p
          | some a => { p with isSystem := systemFlag p a })) ∧
      tagSystemPosts users t' = t' ∧
      groupThreads (some t') = (groupThreads (some t)).map (mapGroup (tagPost users)) ∧
      readingOrder (some t') = (readingOrder (some t)).map (mapGroup (tagPost users)) ∧
      orphanReplies t' = (orphanReplies t).map (tagPost users) := by
  intro t'
  have hkeeps := tagPost_keepsThreading users
  refine ⟨rfl, rfl, rfl, rfl, by simp [t', tagSystemPosts], ?_, ?_, ?_, ?_, ?_⟩
  · intro i k p hp
    simp [t', tagSystemPosts, hp, tagPost_eq]
  · -- every post is tagged to itself a second time
    simp [t', tagSystemPosts, Function.comp_def, tagPost_tagPost]
  · exact groupThreads_mapPosts hkeeps t
  · exact readingOrder_mapPosts hkeeps t
  · exact orphanReplies_mapPosts hkeeps t

end Thread

end ChatSession
