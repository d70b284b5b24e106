import ForumPost.Proofs.Text.Compact
import ForumPost.Proofs.Transcript.Blocks

/-!
# How a post closes

The last thing that is put out for a post is fixed: the mark or the tag behind its
banner, or the brace behind its JSON form.  The title, the address, the site and the
body all stand in front of it, and so what is put out never ends in a line feed
(`Post.getLast?_output_assembled`).
-/

namespace ForumPost

namespace Style

/-- The last character of a banner. -/
def closing (style : Style) : Char :=
  match style.dialect with
  | .reddit => '*'
  | .rpgGeek => ']'

theorem closing_ne_newline (style : Style) : style.closing ≠ '\n' := by
  rw [closing]
  cases style.dialect <;> decide

/-- A banner closes with a mark of its dialect, whatever the site and the address
are. -/
theorem getLast?_banner (style : Style) (url : Text) :
    (style.banner url).getLast? = some style.closing := by
  rw [banner, closing]
  cases style.dialect with
  | reddit =>
    rw [Reddit.banner, Reddit.between, List.getLast?_append]
    rfl
  | rpgGeek =>
    rw [RpgGeek.banner, RpgGeek.tagged, List.getLast?_append]
    rfl

end Style

namespace Post

/-- The text of a post closes with its banner. -/
theorem getLast?_text_assembled (style : Style) (title canonicalUrl url : Text)
    (body : List Text) :
    (assembled title canonicalUrl (style.banner url) body).text.getLast? =
      some style.closing := by
  have hbanner : style.banner url ≠ [] := by
    intro hempty
    have hlast := style.getLast?_banner url
    rw [hempty] at hlast
    cases hlast
  rw [← style.getLast?_banner url]
  exact Text.getLast?_join_concat _ (("# ".toList ++ title) :: style.banner url :: body) hbanner

/-- The JSON form of a post closes with a brace. -/
theorem getLast?_written_toJson (post : Post) (dialect : Dialect) :
    (post.toJson dialect).written.getLast? = some '\x7d' := by
  rw [toJson, Json.written, Json.writtenAt, List.getLast?_concat]

/-- What is put out for a post with a banner at its end does not end in a line feed. -/
theorem getLast?_output_assembled (style : Style) (title canonicalUrl url : Text)
    (body : List Text) (dialect : Dialect) (json : Bool) :
    ((assembled title canonicalUrl (style.banner url) body).output dialect json).getLast? ≠
      some '\n' := by
  rw [output]
  cases json with
  | true =>
    rw [if_pos rfl, getLast?_written_toJson]
    decide
  | false =>
    rw [if_neg Bool.false_ne_true, getLast?_text_assembled, ne_eq, Option.some.injEq]
    exact style.closing_ne_newline

/-- Every post that is made of a page has its banner at its end. -/
theorem getLast?_output_ofPage {style : Style} {page : Html.Page} {post : Post}
    (hpost : ofPage style page = .ok post) (dialect : Dialect) (json : Bool) :
    (post.output dialect json).getLast? ≠ some '\n' := by
  obtain ⟨url, content, blocks, -, -, -, rfl⟩ := ofPage_eq_ok hpost
  exact getLast?_output_assembled style page.title url url blocks dialect json

end Post

end ForumPost
