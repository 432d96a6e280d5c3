import TemplateScript.Ty.Basic

/-!
The functions that every template may call, with the types they are checked at.
-/
namespace TemplateScript.Builtins

def comparison : FunctionType := ⟨[.number, .number], some .boolean⟩

def textual : FunctionType := ⟨[.string], some .string⟩

def table : List (String × FunctionType) :=
  [("eq", comparison), ("ne", comparison), ("lt", comparison), ("le", comparison),
    ("gt", comparison), ("ge", comparison),
    ("not", ⟨[.boolean], some .boolean⟩),
    ("len", ⟨[.array .string], some .number⟩),
    ("printf", ⟨[.string, .string], some .string⟩),
    ("print", textual), ("println", textual), ("html", textual), ("js", textual),
    ("urlquery", textual), ("json", textual),
    ("_html_template_htmlescaper", textual), ("_html_template_attrescaper", textual),
    ("_html_template_rcdataescaper", textual), ("_html_template_nospaceescaper", textual),
    ("_html_template_commentescaper", textual), ("_html_template_urlescaper", textual),
    ("_html_template_urlnormalizer", textual), ("_html_template_urlfilter", textual),
    ("_html_template_jsvalescaper", textual), ("_html_template_jsstrescaper", textual),
    ("_html_template_jsregexpescaper", textual)]

def names : List String :=
  table.map Prod.fst

end TemplateScript.Builtins
