import Portal.Forms.Basic
/-! The blog's forms: writing an article and commenting on one. -/
namespace Portal
namespace Blog
open Forms

def articleFields : List FieldSpec :=
  [{ name := "title", kind := .text (some 200), label := some "Title" },
   { name := "category", kind := .record .category, required := false, label := some "Category" },
   { name := "content", kind := .text none, label := some "Content" },
   { name := "excerpt", kind := .text (some 300), label := some "Excerpt" },
   { name := "featured_image", kind := .upload, required := false, label := some "Featured Image" },
   { name := "is_featured", kind := .flag, required := false, label := some "Mark as Featured" },
   { name := "read_time_minutes", kind := .whole (some 0),
     label := some "Estimated Reading Time (minutes)" },
   { name := "save_as_draft", kind := .flag, required := false, label := some "Save as Draft" }]

def commentFields : List FieldSpec :=
  [{ name := "content", kind := .text none, label := some "Comment" }]

def noCheck (_ : Outcome) (_ : String) (v : Value) : App (Except String Value) := pure (.ok v)

def readArticle (data : Submitted) : App Outcome := readAll articleFields data noCheck

def readComment (data : Submitted) : App Outcome := readAll commentFields data noCheck

end Blog
end Portal
