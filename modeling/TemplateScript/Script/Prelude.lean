/-!
The prelude: the script that every bundle relies on, as one expression.

Its value is an object with the version, the default printing of values, the truth of values, the
rendering of templates by name and the table of builtin functions. What the functions compute is
described on its own, under the builtins.
-/
namespace TemplateScript.Prelude

/-- Raised whenever the behaviour of the prelude changes. -/
def version : String := "1.0.0"

def opening : List String :=
  ["/* tmpljs runtime prelude, version 1.0.0 */",
   "(function () \x7b",
   "  \"use strict\";",
   "",
   "  var VERSION = \"1.0.0\";",
   "",
   "  function own(o, k) \x7b",
   "    return Object.prototype.hasOwnProperty.call(o, k);",
   "  \x7d",
   "",
   "  function isArray(v) \x7b",
   "    return Object.prototype.toString.call(v) === \"[object Array]\";",
   "  \x7d",
   "",
   "  /* Template truthiness: empty arrays are false. */",
   "  function truth(v) \x7b",
   "    if (isArray(v)) \x7b",
   "      return v.length > 0;",
   "    \x7d",
   "    return !!v;",
   "  \x7d",
   "",
   "  /* Default formatting of a value, as \x7b\x7b.\x7d\x7d prints it. */",
   "  function str(v) \x7b",
   "    if (v === null || v === undefined) \x7b",
   "      return \"<nil>\";",
   "    \x7d",
   "    if (isArray(v)) \x7b",
   "      var items = [];",
   "      for (var i = 0; i < v.length; i++) \x7b",
   "        items.push(str(v[i]));",
   "      \x7d",
   "      return \"[\" + items.join(\" \") + \"]\";",
   "    \x7d",
   "    if (typeof v === \"object\") \x7b",
   "      var parts = [];",
   "      for (var k in v) \x7b",
   "        if (own(v, k) && typeof v[k] !== \"function\") \x7b",
   "          parts.push(str(v[k]));",
   "        \x7d",
   "      \x7d",
   "      return \"\x7b\" + parts.join(\" \") + \"\x7d\";",
   "    \x7d",
   "    return \"\" + v;",
   "  \x7d",
   ""]

def operands : List String :=
  ["  function args(a, from) \x7b",
   "    return Array.prototype.slice.call(a, from || 0);",
   "  \x7d",
   "",
   "  /* Spaces go between operands when neither side is a string. */",
   "  function sprint(list) \x7b",
   "    var s = \"\";",
   "    for (var i = 0; i < list.length; i++) \x7b",
   "      if (i > 0 && typeof list[i] !== \"string\" && typeof list[i - 1] !== \"string\") \x7b",
   "        s += \" \";",
   "      \x7d",
   "      s += str(list[i]);",
   "    \x7d",
   "    return s;",
   "  \x7d",
   "",
   "  function stringify(list) \x7b",
   "    if (list.length === 1 && typeof list[0] === \"string\") \x7b",
   "      return list[0];",
   "    \x7d",
   "    return sprint(list);",
   "  \x7d",
   "",
   "  function hex2(code, upper) \x7b",
   "    var h = (code < 16 ? \"0\" : \"\") + code.toString(16);",
   "    return upper ? h.toUpperCase() : h;",
   "  \x7d",
   "",
   "  function replaceTable(s, pattern, table, fallback) \x7b",
   "    return s.replace(pattern, function (c) \x7b",
   "      if (own(table, c)) \x7b",
   "        return table[c];",
   "      \x7d",
   "      return fallback(c);",
   "    \x7d);",
   "  \x7d",
   "",
   "  function unicodeEscape(c) \x7b",
   "    var h = c.charCodeAt(0).toString(16);",
   "    return \"\\\\u\" + \"0000\".slice(h.length) + h;",
   "  \x7d",
   ""]

def printf : List String :=
  ["  /* ---- printf ---- */",
   "",
   "  function pad(s, width, flags) \x7b",
   "    var n = width ? +width : 0;",
   "    if (s.length >= n) \x7b",
   "      return s;",
   "    \x7d",
   "    var fill = new Array(n - s.length + 1).join(flags.indexOf(\"0\") >= 0 && flags.indexOf(\"-\") < 0 ? \"0\" : \" \");",
   "    if (flags.indexOf(\"-\") >= 0) \x7b",
   "      return s + fill;",
   "    \x7d",
   "    if (fill.charAt(0) === \"0\" && (s.charAt(0) === \"-\" || s.charAt(0) === \"+\")) \x7b",
   "      return s.charAt(0) + fill + s.slice(1);",
   "    \x7d",
   "    return fill + s;",
   "  \x7d",
   "",
   "  function utf8Hex(s) \x7b",
   "    return encodeURIComponent(s).replace(/%([0-9A-F]\x7b2\x7d)|([\\s\\S])/g, function (m, h, c) \x7b",
   "      return h ? h.toLowerCase() : hex2(c.charCodeAt(0), false);",
   "    \x7d);",
   "  \x7d",
   "",
   "  function printf(format) \x7b",
   "    var rest = args(arguments, 1);",
   "    var next = 0;",
   "    return String(format).replace(/%([-+ 0#]*)(\\d+)?(?:\\.(\\d+))?([%a-zA-Z])/g, function (m, flags, width, prec, verb) \x7b",
   "      if (verb === \"%\") \x7b",
   "        return \"%\";",
   "      \x7d",
   "      if (next >= rest.length) \x7b",
   "        return \"%!\" + verb + \"(MISSING)\";",
   "      \x7d",
   "      var a = rest[next++];",
   "      var s;",
   "      switch (verb) \x7b",
   "        case \"v\":",
   "        case \"s\":",
   "          s = str(a);",
   "          if (prec !== undefined) \x7b",
   "            s = s.slice(0, +prec);",
   "          \x7d",
   "          break;",
   "        case \"q\":",
   "          s = JSON.stringify(str(a));",
   "          break;",
   "        case \"d\":",
   "          s = String(a < 0 ? Math.ceil(a) : Math.floor(a));",
   "          break;",
   "        case \"t\":",
   "          s = String(!!a);",
   "          break;",
   "        case \"f\":",
   "          s = Number(a).toFixed(prec === undefined ? 6 : +prec);",
   "          break;",
   "        case \"x\":",
   "        case \"X\":",
   "          s = typeof a === \"number\" ? Math.floor(a).toString(16) : utf8Hex(str(a));",
   "          if (verb === \"X\") \x7b",
   "            s = s.toUpperCase();",
   "          \x7d",
   "          break;",
   "        default:",
   "          return \"%!\" + verb + \"(\" + str(a) + \")\";",
   "      \x7d",
   "      if ((verb === \"d\" || verb === \"f\") && Number(a) >= 0) \x7b",
   "        if (flags.indexOf(\"+\") >= 0) \x7b",
   "          s = \"+\" + s;",
   "        \x7d else if (flags.indexOf(\" \") >= 0) \x7b",
   "          s = \" \" + s;",
   "        \x7d",
   "      \x7d",
   "      return pad(s, width, flags);",
   "    \x7d);",
   "  \x7d",
   ""]

def textEscapers : List String :=
  ["  /* ---- text escapers ---- */",
   "",
   "  var HTML = \x7b \"&\": \"&amp;\", \"'\": \"&#39;\", \"<\": \"&lt;\", \">\": \"&gt;\", \"\\\"\": \"&#34;\", \"\\u0000\": \"\\ufffd\" \x7d;",
   "",
   "  function htmlEscapeString(s) \x7b",
   "    return s.replace(/[&'<>\"\\u0000]/g, function (c) \x7b",
   "      return HTML[c];",
   "    \x7d);",
   "  \x7d",
   "",
   "  var JS = \x7b \"\\\\\": \"\\\\\\\\\", \"'\": \"\\\\'\", \"\\\"\": \"\\\\\\\"\", \"<\": \"\\\\u003C\", \">\": \"\\\\u003E\", \"&\": \"\\\\u0026\", \"=\": \"\\\\u003D\" \x7d;",
   "",
   "  function jsEscapeString(s) \x7b",
   "    return replaceTable(s, /[\\\\'\"<>&=\\u0000-\\u001f\\u2028\\u2029]/g, JS, function (c) \x7b",
   "      return unicodeEscape(c).toUpperCase().replace(\"\\\\U\", \"\\\\u\");",
   "    \x7d);",
   "  \x7d",
   "",
   "  function queryEscape(s) \x7b",
   "    return encodeURIComponent(s)",
   "      .replace(/[!'()*]/g, function (c) \x7b",
   "        return \"%\" + hex2(c.charCodeAt(0), true);",
   "      \x7d)",
   "      .replace(/%20/g, \"+\");",
   "  \x7d",
   "",
   "  /* ---- contextual escapers ---- */",
   "",
   "  var HTML_ATTR = \x7b \"\\u0000\": \"\\ufffd\", \"\\\"\": \"&#34;\", \"&\": \"&amp;\", \"'\": \"&#39;\", \"+\": \"&#43;\", \"<\": \"&lt;\", \">\": \"&gt;\" \x7d;",
   "",
   "  var HTML_NOSPACE = \x7b",
   "    \"\\u0000\": \"&#xfffd;\", \"\\t\": \"&#9;\", \"\\n\": \"&#10;\", \"\\u000b\": \"&#11;\", \"\\f\": \"&#12;\", \"\\r\": \"&#13;\",",
   "    \" \": \"&#32;\", \"\\\"\": \"&#34;\", \"&\": \"&amp;\", \"'\": \"&#39;\", \"+\": \"&#43;\", \"<\": \"&lt;\", \"=\": \"&#61;\",",
   "    \">\": \"&gt;\", \"`\": \"&#96;\"",
   "  \x7d;",
   "",
   "  function htmlEscaper() \x7b",
   "    return stringify(args(arguments)).replace(/[\\u0000\"&'+<>]/g, function (c) \x7b",
   "      return HTML_ATTR[c];",
   "    \x7d);",
   "  \x7d",
   ""]

def urlEscapers : List String :=
  ["  function nospaceEscaper() \x7b",
   "    var s = stringify(args(arguments));",
   "    if (s === \"\") \x7b",
   "      return \"ZgotmplZ\";",
   "    \x7d",
   "    return s.replace(/[\\u0000\\t\\n\\u000b\\f\\r \"&'+<=>`]/g, function (c) \x7b",
   "      return HTML_NOSPACE[c];",
   "    \x7d);",
   "  \x7d",
   "",
   "  var URL_KEEP = /[A-Za-z0-9\\-._~]/;",
   "  var URL_KEEP_NORM = /[A-Za-z0-9\\-._~!#$&*+,\\/:;=?@\\[\\]%]/;",
   "",
   "  function urlProcess(s, norm) \x7b",
   "    var keep = norm ? URL_KEEP_NORM : URL_KEEP;",
   "    var out = \"\";",
   "    for (var i = 0; i < s.length; i++) \x7b",
   "      var c = s.charAt(i);",
   "      var code = s.charCodeAt(i);",
   "      if (keep.test(c)) \x7b",
   "        out += c;",
   "      \x7d else if (code < 0x80) \x7b",
   "        out += \"%\" + hex2(code, true);",
   "      \x7d else \x7b",
   "        if (code >= 0xd800 && code <= 0xdbff && i + 1 < s.length) \x7b",
   "          c += s.charAt(++i);",
   "        \x7d",
   "        try \x7b",
   "          out += encodeURIComponent(c);",
   "        \x7d catch (e) \x7b",
   "          out += \"%EF%BF%BD\";",
   "        \x7d",
   "      \x7d",
   "    \x7d",
   "    return out;",
   "  \x7d",
   "",
   "  function urlFilter() \x7b",
   "    var s = stringify(args(arguments));",
   "    var colon = s.indexOf(\":\");",
   "    if (colon >= 0 && s.slice(0, colon).indexOf(\"/\") < 0) \x7b",
   "      var scheme = s.slice(0, colon).toLowerCase();",
   "      if (scheme !== \"http\" && scheme !== \"https\" && scheme !== \"mailto\") \x7b",
   "        return \"#ZgotmplZ\";",
   "      \x7d",
   "    \x7d",
   "    return s;",
   "  \x7d",
   ""]

def scriptEscapers : List String :=
  ["  var JS_SPECIAL = \x7b \"<\": \"\\\\u003c\", \">\": \"\\\\u003e\", \"&\": \"\\\\u0026\", \"\\u2028\": \"\\\\u2028\", \"\\u2029\": \"\\\\u2029\" \x7d;",
   "",
   "  function jsValEscaper(v) \x7b",
   "    if (arguments.length !== 1) \x7b",
   "      v = sprint(args(arguments));",
   "    \x7d",
   "    var s = JSON.stringify(v);",
   "    if (s === undefined || s === \"\") \x7b",
   "      return \" null \";",
   "    \x7d",
   "    s = s.replace(/[<>&\\u2028\\u2029]/g, function (c) \x7b",
   "      return JS_SPECIAL[c];",
   "    \x7d);",
   "    if (/[\\w$]/.test(s.charAt(0)) || /[\\w$]/.test(s.charAt(s.length - 1))) \x7b",
   "      return \" \" + s + \" \";",
   "    \x7d",
   "    return s;",
   "  \x7d",
   "",
   "  var JS_STR = \x7b",
   "    \"\\u0000\": \"\\\\u0000\", \"\\t\": \"\\\\t\", \"\\n\": \"\\\\n\", \"\\u000b\": \"\\\\u000b\", \"\\f\": \"\\\\f\", \"\\r\": \"\\\\r\",",
   "    \"\\\"\": \"\\\\u0022\", \"&\": \"\\\\u0026\", \"'\": \"\\\\u0027\", \"+\": \"\\\\u002b\", \"/\": \"\\\\/\", \"<\": \"\\\\u003c\",",
   "    \">\": \"\\\\u003e\", \"\\\\\": \"\\\\\\\\\", \"`\": \"\\\\u0060\"",
   "  \x7d;",
   "",
   "  var JS_REGEXP = \x7b",
   "    \"$\": \"\\\\$\", \"(\": \"\\\\(\", \")\": \"\\\\)\", \"*\": \"\\\\*\", \"-\": \"\\\\-\", \".\": \"\\\\.\", \"?\": \"\\\\?\", \"[\": \"\\\\[\",",
   "    \"]\": \"\\\\]\", \"^\": \"\\\\^\", \"\x7b\": \"\\\\\x7b\", \"|\": \"\\\\|\", \"\x7d\": \"\\\\\x7d\"",
   "  \x7d;",
   "",
   "  function jsStrEscaper() \x7b",
   "    return replaceTable(stringify(args(arguments)), /[\\u0000-\\u001f\"&'+\\/<>\\\\`\\u2028\\u2029]/g, JS_STR, unicodeEscape);",
   "  \x7d",
   "",
   "  function jsRegexpEscaper() \x7b",
   "    var s = stringify(args(arguments));",
   "    if (s === \"\") \x7b",
   "      return \"(?:)\";",
   "    \x7d",
   "    return s.replace(/[\\u0000-\\u001f\"&'+\\/<>\\\\`\\u2028\\u2029$()*\\-.?\\[\\]^\x7b|\x7d]/g, function (c) \x7b",
   "      if (own(JS_REGEXP, c)) \x7b",
   "        return JS_REGEXP[c];",
   "      \x7d",
   "      if (own(JS_STR, c)) \x7b",
   "        return JS_STR[c];",
   "      \x7d",
   "      return unicodeEscape(c);",
   "    \x7d);",
   "  \x7d",
   ""]

def builtinTable : List String :=
  ["  /* ---- builtin functions ---- */",
   "",
   "  var builtins = \x7b",
   "    eq: function (a) \x7b",
   "      for (var i = 1; i < arguments.length; i++) \x7b",
   "        if (a === arguments[i]) \x7b",
   "          return true;",
   "        \x7d",
   "      \x7d",
   "      return false;",
   "    \x7d,",
   "    ne: function (a, b) \x7b return a !== b; \x7d,",
   "    lt: function (a, b) \x7b return a < b; \x7d,",
   "    le: function (a, b) \x7b return a <= b; \x7d,",
   "    gt: function (a, b) \x7b return a > b; \x7d,",
   "    ge: function (a, b) \x7b return a >= b; \x7d,",
   "    not: function (v) \x7b return !truth(v); \x7d,",
   "    len: function (v) \x7b",
   "      if (v === null || v === undefined) \x7b",
   "        return 0;",
   "      \x7d",
   "      if (typeof v === \"object\" && !isArray(v)) \x7b",
   "        return Object.keys(v).length;",
   "      \x7d",
   "      return v.length;",
   "    \x7d,",
   "    print: function () \x7b return sprint(args(arguments)); \x7d,",
   "    println: function () \x7b",
   "      var list = args(arguments);",
   "      for (var i = 0; i < list.length; i++) \x7b",
   "        list[i] = str(list[i]);",
   "      \x7d",
   "      return list.join(\" \") + \"\\n\";",
   "    \x7d,",
   "    printf: printf,",
   "    html: function () \x7b return htmlEscapeString(stringify(args(arguments))); \x7d,",
   "    js: function () \x7b return jsEscapeString(stringify(args(arguments))); \x7d,",
   "    urlquery: function () \x7b return queryEscape(stringify(args(arguments))); \x7d,",
   "    json: function (v) \x7b return JSON.stringify(v); \x7d,",
   "    _html_template_htmlescaper: htmlEscaper,",
   "    _html_template_attrescaper: htmlEscaper,",
   "    _html_template_rcdataescaper: htmlEscaper,",
   "    _html_template_nospaceescaper: nospaceEscaper,",
   "    _html_template_commentescaper: function () \x7b return \"\"; \x7d,",
   "    _html_template_urlescaper: function () \x7b return urlProcess(stringify(args(arguments)), false); \x7d,",
   "    _html_template_urlnormalizer: function () \x7b return urlProcess(stringify(args(arguments)), true); \x7d,",
   "    _html_template_urlfilter: urlFilter,",
   "    _html_template_jsvalescaper: jsValEscaper,",
   "    _html_template_jsstrescaper: jsStrEscaper,",
   "    _html_template_jsregexpescaper: jsRegexpEscaper",
   "  \x7d;",
   ""]

def closing : List String :=
  ["  /* The function table seen by templates: builtins, overridden by funcs. */",
   "  function globals(funcs) \x7b",
   "    var table = \x7b\x7d;",
   "    var k;",
   "    for (k in builtins) \x7b",
   "      if (own(builtins, k)) \x7b",
   "        table[k] = builtins[k];",
   "      \x7d",
   "    \x7d",
   "    if (funcs) \x7b",
   "      for (k in funcs) \x7b",
   "        if (own(funcs, k)) \x7b",
   "          table[k] = funcs[k];",
   "        \x7d",
   "      \x7d",
   "    \x7d",
   "    return table;",
   "  \x7d",
   "",
   "  function include(tmpls, name, ctx) \x7b",
   "    if (!own(tmpls, name)) \x7b",
   "      throw new Error(\"tmpljs: no such template \\\"\" + name + \"\\\"\");",
   "    \x7d",
   "    return tmpls[name](ctx);",
   "  \x7d",
   "",
   "  return \x7b",
   "    version: VERSION,",
   "    truth: truth,",
   "    str: str,",
   "    include: include,",
   "    globals: globals,",
   "    builtins: builtins",
   "  \x7d;",
   "\x7d)()"]

def lines : List String :=
  opening ++ operands ++ printf ++ textEscapers ++ urlEscapers ++ scriptEscapers ++ builtinTable ++ closing

/-- The source text, without a line end after the last line. -/
def source : String :=
  "\n".intercalate lines

end TemplateScript.Prelude
