import ForumPost.Post
import ForumPost.Proofs.Json.Spelling
import ForumPost.Proofs.Json.Writing

/-!
# What is put out for a post

As JSON, a post is put out as a text that stands for one object, and for nothing
else.  The object has the dialect, the title, the address, the blocks and the text of
the post as its fields, so that nothing of the post is lost (`output_json_iff`).
-/

namespace ForumPost

theorem Dialect.id_inj {first second : Dialect} : first.id = second.id ↔ first = second := by
  cases first <;> cases second <;> decide

namespace Post

/-- There is no number in the JSON form of a post. -/
theorem isLegal_toJson (post : Post) (dialect : Dialect) : (post.toJson dialect).IsLegal := by
  refine .object (List.forall_mem_cons.mpr ⟨.string _, List.forall_mem_cons.mpr ⟨.string _,
    List.forall_mem_cons.mpr ⟨.string _, List.forall_mem_cons.mpr ⟨.array ?_,
      List.forall_mem_singleton.mpr (.string _)⟩⟩⟩⟩)
  intro item hitem
  obtain ⟨block, -, rfl⟩ := List.mem_map.mp hitem
  exact .string block

/-- A post and a dialect are known from their JSON form. -/
theorem toJson_inj {first second : Post} {dialect other : Dialect} :
    first.toJson dialect = second.toJson other ↔ first = second ∧ dialect = other := by
  constructor
  · intro heq
    simp only [toJson, Json.object.injEq, List.cons.injEq, Prod.mk.injEq, Json.string.injEq,
      Json.array.injEq, true_and] at heq
    obtain ⟨hdialect, htitle, hurl, hblocks, -⟩ := heq
    have hinjective : Function.Injective Json.string := fun _ _ hstring => Json.string.inj hstring
    refine ⟨?_, Dialect.id_inj.mp hdialect⟩
    cases first
    cases second
    cases htitle
    cases hurl
    cases List.map_injective_iff.mpr hinjective hblocks
    rfl
  · rintro ⟨rfl, rfl⟩
    rfl

end Post

/-- The JSON form of a post loses nothing and agrees with its text.  What is put out
as JSON is the text of exactly one value, and is read as that value: the object that
holds the name of the dialect, the title, the address and the blocks of the post, as
they are and in order, and what is put out as plain text.  No two posts and dialects
have the same JSON form. -/
theorem output_json_iff (post : Post) (dialect : Dialect) :
    let value : Json := .object [
      ("dialect".toList, .string dialect.id),
      ("title".toList, .string post.title),
      ("canonical_url".toList, .string post.canonicalUrl),
      ("blocks".toList, .array (post.blocks.map .string)),
      ("content".toList, .string (post.output dialect false))]
    (∀ other, Json.Spells (post.output dialect true) other ↔ other = value) ∧
      Json.ofText? (post.output dialect true) = some value ∧
      ∀ another spoken, another.output spoken true = post.output dialect true ↔
        another = post ∧ spoken = dialect := by
  intro value
  have hread : ∀ (found : Post) (spoken : Dialect),
      Json.ofText? (found.output spoken true) = some (found.toJson spoken) :=
    fun found spoken => Json.ofText?_written (found.isLegal_toJson spoken)
  refine ⟨fun other => ?_, hread post dialect, fun another spoken => ?_⟩
  · rw [← Json.ofText?_eq_some_iff, hread, Option.some.injEq]
    exact eq_comm
  · rw [← Post.toJson_inj]
    constructor
    · intro heq
      have hanother := hread another spoken
      rw [heq, hread post dialect] at hanother
      exact (Option.some.inj hanother).symm
    · intro heq
      rw [Post.output, Post.output, if_pos rfl, if_pos rfl, heq]

end ForumPost
