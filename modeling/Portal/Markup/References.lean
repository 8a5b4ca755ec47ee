/-! Named character references: the names of the HTML 4 set with `apos` and the capital
spellings, each with the text it stands for. A reference is written with a closing
semicolon; the older names (the Latin-1 letters and signs, and `amp`, `lt`, `gt`, `quot`
in either case, `COPY` and `REG`) may also stand without one. -/
namespace Portal
namespace Markup

def entityPart0 : List (String × String) := [
  ("QUOT", "\""),
  ("quot", "\""),
  ("AMP", "&"),
  ("amp", "&"),
  ("apos", "'"),
  ("LT", "<"),
  ("lt", "<"),
  ("GT", ">"),
  ("gt", ">"),
  ("nbsp", "\xa0"),
  ("iexcl", "\xa1"),
  ("cent", "\xa2"),
  ("pound", "\xa3"),
  ("curren", "\xa4"),
  ("yen", "\xa5"),
  ("brvbar", "\xa6"),
  ("sect", "\xa7"),
  ("uml", "\xa8"),
  ("COPY", "\xa9"),
  ("copy", "\xa9"),
  ("ordf", "\xaa"),
  ("laquo", "\xab"),
  ("not", "\xac"),
  ("shy", "\xad"),
  ("REG", "\xae"),
  ("reg", "\xae"),
  ("macr", "\xaf"),
  ("deg", "\xb0"),
  ("plusmn", "\xb1"),
  ("sup2", "\xb2"),
  ("sup3", "\xb3"),
  ("acute", "\xb4"),
  ("micro", "\xb5"),
  ("para", "\xb6"),
  ("middot", "\xb7"),
  ("cedil", "\xb8"),
  ("sup1", "\xb9"),
  ("ordm", "\xba"),
  ("raquo", "\xbb"),
  ("frac14", "\xbc")]

def entityPart1 : List (String × String) := [
  ("frac12", "\xbd"),
  ("frac34", "\xbe"),
  ("iquest", "\xbf"),
  ("Agrave", "\xc0"),
  ("Aacute", "\xc1"),
  ("Acirc", "\xc2"),
  ("Atilde", "\xc3"),
  ("Auml", "\xc4"),
  ("Aring", "\xc5"),
  ("AElig", "\xc6"),
  ("Ccedil", "\xc7"),
  ("Egrave", "\xc8"),
  ("Eacute", "\xc9"),
  ("Ecirc", "\xca"),
  ("Euml", "\xcb"),
  ("Igrave", "\xcc"),
  ("Iacute", "\xcd"),
  ("Icirc", "\xce"),
  ("Iuml", "\xcf"),
  ("ETH", "\xd0"),
  ("Ntilde", "\xd1"),
  ("Ograve", "\xd2"),
  ("Oacute", "\xd3"),
  ("Ocirc", "\xd4"),
  ("Otilde", "\xd5"),
  ("Ouml", "\xd6"),
  ("times", "\xd7"),
  ("Oslash", "\xd8"),
  ("Ugrave", "\xd9"),
  ("Uacute", "\xda"),
  ("Ucirc", "\xdb"),
  ("Uuml", "\xdc"),
  ("Yacute", "\xdd"),
  ("THORN", "\xde"),
  ("szlig", "\xdf"),
  ("agrave", "\xe0"),
  ("aacute", "\xe1"),
  ("acirc", "\xe2"),
  ("atilde", "\xe3"),
  ("auml", "\xe4")]

def entityPart2 : List (String × String) := [
  ("aring", "\xe5"),
  ("aelig", "\xe6"),
  ("ccedil", "\xe7"),
  ("egrave", "\xe8"),
  ("eacute", "\xe9"),
  ("ecirc", "\xea"),
  ("euml", "\xeb"),
  ("igrave", "\xec"),
  ("iacute", "\xed"),
  ("icirc", "\xee"),
  ("iuml", "\xef"),
  ("eth", "\xf0"),
  ("ntilde", "\xf1"),
  ("ograve", "\xf2"),
  ("oacute", "\xf3"),
  ("ocirc", "\xf4"),
  ("otilde", "\xf5"),
  ("ouml", "\xf6"),
  ("divide", "\xf7"),
  ("oslash", "\xf8"),
  ("ugrave", "\xf9"),
  ("uacute", "\xfa"),
  ("ucirc", "\xfb"),
  ("uuml", "\xfc"),
  ("yacute", "\xfd"),
  ("thorn", "\xfe"),
  ("yuml", "\xff"),
  ("OElig", "\u0152"),
  ("oelig", "\u0153"),
  ("Scaron", "\u0160"),
  ("scaron", "\u0161"),
  ("Yuml", "\u0178"),
  ("fnof", "\u0192"),
  ("circ", "\u02c6"),
  ("tilde", "\u02dc"),
  ("Alpha", "\u0391"),
  ("Beta", "\u0392"),
  ("Gamma", "\u0393"),
  ("Delta", "\u0394"),
  ("Epsilon", "\u0395")]

def entityPart3 : List (String × String) := [
  ("Zeta", "\u0396"),
  ("Eta", "\u0397"),
  ("Theta", "\u0398"),
  ("Iota", "\u0399"),
  ("Kappa", "\u039a"),
  ("Lambda", "\u039b"),
  ("Mu", "\u039c"),
  ("Nu", "\u039d"),
  ("Xi", "\u039e"),
  ("Omicron", "\u039f"),
  ("Pi", "\u03a0"),
  ("Rho", "\u03a1"),
  ("Sigma", "\u03a3"),
  ("Tau", "\u03a4"),
  ("Upsilon", "\u03a5"),
  ("Phi", "\u03a6"),
  ("Chi", "\u03a7"),
  ("Psi", "\u03a8"),
  ("Omega", "\u03a9"),
  ("alpha", "\u03b1"),
  ("beta", "\u03b2"),
  ("gamma", "\u03b3"),
  ("delta", "\u03b4"),
  ("epsilon", "\u03b5"),
  ("zeta", "\u03b6"),
  ("eta", "\u03b7"),
  ("theta", "\u03b8"),
  ("iota", "\u03b9"),
  ("kappa", "\u03ba"),
  ("lambda", "\u03bb"),
  ("mu", "\u03bc"),
  ("nu", "\u03bd"),
  ("xi", "\u03be"),
  ("omicron", "\u03bf"),
  ("pi", "\u03c0"),
  ("rho", "\u03c1"),
  ("sigmaf", "\u03c2"),
  ("sigma", "\u03c3"),
  ("tau", "\u03c4"),
  ("upsilon", "\u03c5")]

def entityPart4 : List (String × String) := [
  ("phi", "\u03c6"),
  ("chi", "\u03c7"),
  ("psi", "\u03c8"),
  ("omega", "\u03c9"),
  ("thetasym", "\u03d1"),
  ("upsih", "\u03d2"),
  ("piv", "\u03d6"),
  ("ensp", "\u2002"),
  ("emsp", "\u2003"),
  ("thinsp", "\u2009"),
  ("zwnj", "\u200c"),
  ("zwj", "\u200d"),
  ("lrm", "\u200e"),
  ("rlm", "\u200f"),
  ("ndash", "\u2013"),
  ("mdash", "\u2014"),
  ("lsquo", "\u2018"),
  ("rsquo", "\u2019"),
  ("sbquo", "\u201a"),
  ("ldquo", "\u201c"),
  ("rdquo", "\u201d"),
  ("bdquo", "\u201e"),
  ("dagger", "\u2020"),
  ("Dagger", "\u2021"),
  ("bull", "\u2022"),
  ("hellip", "\u2026"),
  ("permil", "\u2030"),
  ("prime", "\u2032"),
  ("Prime", "\u2033"),
  ("lsaquo", "\u2039"),
  ("rsaquo", "\u203a"),
  ("oline", "\u203e"),
  ("frasl", "\u2044"),
  ("euro", "\u20ac"),
  ("image", "\u2111"),
  ("weierp", "\u2118"),
  ("real", "\u211c"),
  ("trade", "\u2122"),
  ("alefsym", "\u2135"),
  ("larr", "\u2190")]

def entityPart5 : List (String × String) := [
  ("uarr", "\u2191"),
  ("rarr", "\u2192"),
  ("darr", "\u2193"),
  ("harr", "\u2194"),
  ("crarr", "\u21b5"),
  ("lArr", "\u21d0"),
  ("uArr", "\u21d1"),
  ("rArr", "\u21d2"),
  ("dArr", "\u21d3"),
  ("hArr", "\u21d4"),
  ("forall", "\u2200"),
  ("part", "\u2202"),
  ("exist", "\u2203"),
  ("empty", "\u2205"),
  ("nabla", "\u2207"),
  ("isin", "\u2208"),
  ("notin", "\u2209"),
  ("ni", "\u220b"),
  ("prod", "\u220f"),
  ("sum", "\u2211"),
  ("minus", "\u2212"),
  ("lowast", "\u2217"),
  ("radic", "\u221a"),
  ("prop", "\u221d"),
  ("infin", "\u221e"),
  ("ang", "\u2220"),
  ("and", "\u2227"),
  ("or", "\u2228"),
  ("cap", "\u2229"),
  ("cup", "\u222a"),
  ("int", "\u222b"),
  ("there4", "\u2234"),
  ("sim", "\u223c"),
  ("cong", "\u2245"),
  ("asymp", "\u2248"),
  ("ne", "\u2260"),
  ("equiv", "\u2261"),
  ("le", "\u2264"),
  ("ge", "\u2265"),
  ("sub", "\u2282")]

def entityPart6 : List (String × String) := [
  ("sup", "\u2283"),
  ("nsub", "\u2284"),
  ("sube", "\u2286"),
  ("supe", "\u2287"),
  ("oplus", "\u2295"),
  ("otimes", "\u2297"),
  ("perp", "\u22a5"),
  ("sdot", "\u22c5"),
  ("lceil", "\u2308"),
  ("rceil", "\u2309"),
  ("lfloor", "\u230a"),
  ("rfloor", "\u230b"),
  ("loz", "\u25ca"),
  ("spades", "\u2660"),
  ("clubs", "\u2663"),
  ("hearts", "\u2665"),
  ("diams", "\u2666"),
  ("lang", "\u27e8"),
  ("rang", "\u27e9")]

def namedReferences : List (String × String) :=
  entityPart0 ++ entityPart1 ++ entityPart2 ++ entityPart3 ++ entityPart4 ++ entityPart5 ++ entityPart6

def legacyNames : List String :=
  ["AElig", "AMP", "Aacute", "Acirc", "Agrave", "Aring", "Atilde", "Auml", "COPY", "Ccedil", "ETH", "Eacute", "Ecirc", "Egrave", "Euml", "GT", "Iacute", "Icirc", "Igrave", "Iuml", "LT", "Ntilde", "Oacute", "Ocirc", "Ograve", "Oslash", "Otilde", "Ouml", "QUOT", "REG", "THORN", "Uacute", "Ucirc", "Ugrave", "Uuml", "Yacute", "aacute", "acirc", "acute", "aelig", "agrave", "amp", "aring", "atilde", "auml", "brvbar", "ccedil", "cedil", "cent", "copy", "curren", "deg", "divide", "eacute", "ecirc", "egrave", "eth", "euml", "frac12", "frac14", "frac34", "gt", "iacute", "icirc", "iexcl", "igrave", "iquest", "iuml", "laquo", "lt", "macr", "micro", "middot", "nbsp", "not", "ntilde", "oacute", "ocirc", "ograve", "ordf", "ordm", "oslash", "otilde", "ouml", "para", "plusmn", "pound", "quot", "raquo", "reg", "sect", "shy", "sup1", "sup2", "sup3", "szlig", "thorn", "times", "uacute", "ucirc", "ugrave", "uml", "uuml", "yacute", "yen", "yuml"]

def reference? (name : String) : Option String :=
  (namedReferences.find? (·.1 == name)).map (·.2)

def remappedNumbers : List (Nat × String) :=
  [(0x00, "\ufffd"), (0x0d, "\r"), (0x80, "\u20ac"), (0x81, "\x81"), (0x82, "\u201a"), (0x83, "\u0192"),
    (0x84, "\u201e"), (0x85, "\u2026"), (0x86, "\u2020"), (0x87, "\u2021"), (0x88, "\u02c6"),
    (0x89, "\u2030"), (0x8a, "\u0160"), (0x8b, "\u2039"), (0x8c, "\u0152"), (0x8d, "\x8d"),
    (0x8e, "\u017d"), (0x8f, "\x8f"), (0x90, "\x90"), (0x91, "\u2018"), (0x92, "\u2019"),
    (0x93, "\u201c"), (0x94, "\u201d"), (0x95, "\u2022"), (0x96, "\u2013"), (0x97, "\u2014"),
    (0x98, "\u02dc"), (0x99, "\u2122"), (0x9a, "\u0161"), (0x9b, "\u203a"), (0x9c, "\u0153"),
    (0x9d, "\x9d"), (0x9e, "\u017e"), (0x9f, "\u0178")]

def droppedNumber (n : Nat) : Bool :=
  (0x01 ≤ n && n ≤ 0x08) || n == 0x0b || (0x0e ≤ n && n ≤ 0x1f) || (0x7f ≤ n && n ≤ 0x9f) ||
    (0xfdd0 ≤ n && n ≤ 0xfdef) || n % 0x10000 == 0xfffe || n % 0x10000 == 0xffff

def numberText (n : Nat) : String :=
  match remappedNumbers.find? (·.1 == n) with
  | some (_, t) => t
  | none =>
    if (0xd800 ≤ n && n ≤ 0xdfff) || n > 0x10ffff then "\ufffd"
    else if droppedNumber n then ""
    else (Char.ofNat n).toString

def digitsValue (hex : Bool) (ds : List Char) : Nat :=
  ds.foldl (fun acc c =>
    let d := if c.isDigit then c.toNat - 48 else if 'a' ≤ c && c ≤ 'f' then c.toNat - 87 else c.toNat - 55
    acc * (if hex then 16 else 10) + d) 0

def unescapeText (s : String) : String :=
  let rec go (fuel : Nat) (cs : List Char) (acc : String) : String :=
    match fuel, cs with
    | 0, _ => acc ++ String.ofList cs
    | _, [] => acc
    | fuel + 1, '&' :: rest =>
      match rest with
      | '#' :: more =>
        let (hex, body) := match more with
          | c :: tail => if c == 'x' || c == 'X' then (true, tail) else (false, more)
          | [] => (false, more)
        let ds := body.takeWhile fun c => if hex then c.isDigit || ('a' ≤ c && c ≤ 'f') || ('A' ≤ c && c ≤ 'F') else c.isDigit
        if ds.isEmpty then go fuel rest (acc ++ "&")
        else
          let after := body.drop ds.length
          let after := match after with
            | ';' :: t => t
            | t => t
          go fuel after (acc ++ numberText (digitsValue hex ds))
      | _ =>
        let nameChars := (rest.takeWhile fun c => !(c == '\t' || c == '\n' || c == '\x0c' || c == ' ' ||
          c == '<' || c == '&' || c == '#' || c == ';')).take 32
        if nameChars.isEmpty then go fuel rest (acc ++ "&") else
        let name := String.ofList nameChars
        let after := rest.drop nameChars.length
        let (semi, after) := match after with
          | ';' :: t => (true, t)
          | t => (false, t)
        match (if semi then reference? name else none) with
        | some t => go fuel after (acc ++ t)
        | none =>
          if !semi && legacyNames.contains name then go fuel after (acc ++ ((reference? name).getD ""))
          else
            let shorter := ((List.range (nameChars.length - 1)).reverse.map (· + 1)).find? fun k =>
              k ≥ 2 && legacyNames.contains (String.ofList (nameChars.take k))
            match shorter with
            | some k =>
              go fuel (nameChars.drop k ++ (if semi then ';' :: after else after))
                (acc ++ ((reference? (String.ofList (nameChars.take k))).getD ""))
            | none => go fuel (nameChars ++ (if semi then ';' :: after else after)) (acc ++ "&")
    | fuel + 1, c :: rest => go fuel rest (acc.push c)
  go (s.length + 1) s.toList ""

end Markup
end Portal
