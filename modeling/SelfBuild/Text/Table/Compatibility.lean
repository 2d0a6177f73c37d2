/-!
# Compatibility decompositions, as data

The ASCII characters in the full compatibility decomposition of each character above ASCII, from
version 14.0 of the character database.  Reordering of marks moves no ASCII character, so the
ASCII part of a decomposed text is made of the parts of its characters.
-/

namespace SelfBuild

namespace Text

/-- The characters whose decomposition holds one ASCII character: a first code point, and the ASCII
characters of the code points from there on, with a middle dot where there is none. -/
def compatibleLetters : List (Nat × String) := [
  (0xa0, " ······· ·a···· ··23 ··· 1o·····AAAAAA·CEEEEIIII·NOOOOO··UUUUY··"),
  (0xe0, "aaaaaa·ceeeeiiii·nooooo··uuuuy·yAaAaAaCcCcCcCcDd··EeEeEeEeEeGgGg"),
  (0x120, "GgGgHh··IiIiIiIiI···JjKk·LlLlLlLl··NnNnNnn··OoOoOo··RrRrRrSsSsSs"),
  (0x160, "SsTtTt··UuUuUuUuUuUuWwYyYZzZzZzs"),
  (0x1a0, "Oo"),
  (0x1af, "Uu"),
  (0x1cd, "AaIiOoUuUuUuUuUu·AaAa····GgKkOoOo··j···Gg··NnAa····AaAaEeEeIiIiO"),
  (0x20d, "oOoRrRrUuUuSsTt··Hh······AaEeOoOoOoOoYy"),
  (0x2b0, "h·jr···wy"),
  (0x2d8, "      ···lsx"),
  (0x37a, " ···;·····  "),
  (0x1d2c, "A·B·DE·GHIJKLMN·O·PRTUWa···bde···g·km·o···ptu··v······iruv"),
  (0x1d9c, "c···f"),
  (0x1dbb, "z"),
  (0x1e00, "AaBbBbBbCcDdDdDdDdDdEeEeEeEeEeFfGgHhHhHhHhHhIiIiKkKkKkLlLlLlLlMm"),
  (0x1e40, "MmMmNnNnNnNnOoOoOoOoPpPpRrRrRrRrSsSsSsSsSsTtTtTtTtUuUuUuUuUuVvVv"),
  (0x1e80, "WwWwWwWwWwXxXxYyZzZzZzhtwyas····AaAaAaAaAaAaAaAaAaAaAaAaEeEeEeEe"),
  (0x1ec0, "EeEeEeEeIiIiOoOoOoOoOoOoOoOoOoOoOoOoUuUuUuUuUuUuUuYyYyYyYy"),
  (0x1fbd, " ·   ···········   "),
  (0x1fdd, "   "),
  (0x1fed, "  `"),
  (0x1ffd, "  ·           ············ ············.·········· "),
  (0x203e, " "),
  (0x205f, " "),
  (0x2070, "0i··456789+·=()n0123456789+·=()·aeox·hklmnpst"),
  (0x2102, "CC·····FgHHHh·IILl·N···PQRRR······Z···Z·KABC·eEF·Mo····i········"),
  (0x2142, "···Ddeij"),
  (0x215f, "1I···V····X··LCDMi···v····x··lcdm"),
  (0x2260, "="),
  (0x226e, "<>"),
  (0x2460, "123456789"),
  (0x24b6, "ABCDEFGHIJKLMNOPQRSTUVWXYZabcdefghijklmnopqrstuvwxyz0"),
  (0x2c7c, "jV"),
  (0x3000, " "),
  (0x309b, "  "),
  (0x32c0, "123456789"),
  (0x3358, "0123456789"),
  (0x3382, "A·········Fg·······l·····m"),
  (0x33b2, "s···V·····W···kM"),
  (0x33e0, "123456789"),
  (0xa7f2, "CFQ"),
  (0xfb29, "+"),
  (0xfc5e, "      "),
  (0xfdfb, " "),
  (0xfe10, ",··:;!?"),
  (0xfe33, "__()\x7b\x7d"),
  (0xfe47, "[]    ___,·.·;:?!·()\x7b\x7d··#&*+-<>=·\\$%@···· · · · · · · · "),
  (0xff01, "!\"#$%&'()*+,-./0123456789:;<=>?@ABCDEFGHIJKLMNOPQRSTUVWXYZ[\\]^_`"),
  (0xff41, "abcdefghijklmnopqrstuvwxyz\x7b|\x7d~"),
  (0xffe3, " "),
  (0x107a5, "q"),
  (0x1d400, "ABCDEFGHIJKLMNOPQRSTUVWXYZabcdefghijklmnopqrstuvwxyzABCDEFGHIJKL"),
  (0x1d440, "MNOPQRSTUVWXYZabcdefg·ijklmnopqrstuvwxyzABCDEFGHIJKLMNOPQRSTUVWX"),
  (0x1d480, "YZabcdefghijklmnopqrstuvwxyzA·CD··G··JK··NOPQ·STUVWXYZabcd·f·hij"),
  (0x1d4c0, "klmn·pqrstuvwxyzABCDEFGHIJKLMNOPQRSTUVWXYZabcdefghijklmnopqrstuv"),
  (0x1d500, "wxyzAB·DEFG··JKLMNOPQ·STUVWXY·abcdefghijklmnopqrstuvwxyzAB·DEFG·"),
  (0x1d540, "IJKLM·O···STUVWXY·abcdefghijklmnopqrstuvwxyzABCDEFGHIJKLMNOPQRST"),
  (0x1d580, "UVWXYZabcdefghijklmnopqrstuvwxyzABCDEFGHIJKLMNOPQRSTUVWXYZabcdef"),
  (0x1d5c0, "ghijklmnopqrstuvwxyzABCDEFGHIJKLMNOPQRSTUVWXYZabcdefghijklmnopqr"),
  (0x1d600, "stuvwxyzABCDEFGHIJKLMNOPQRSTUVWXYZabcdefghijklmnopqrstuvwxyzABCD"),
  (0x1d640, "EFGHIJKLMNOPQRSTUVWXYZabcdefghijklmnopqrstuvwxyzABCDEFGHIJKLMNOP"),
  (0x1d680, "QRSTUVWXYZabcdefghijklmnopqrstuvwxyz"),
  (0x1d7ce, "01234567890123456789012345678901234567890123456789"),
  (0x1f12a, "SCR···ABCDEFGHIJKLMNOPQRSTUVWXYZ"),
  (0x1fbf0, "0123456789")]

/-- The characters whose decomposition holds several ASCII characters, in rows of neighbours. -/
def compatibleTexts : List (Nat × List String) := [
  (0xbc, ["14", "12", "34"]),
  (0x132, ["IJ", "ij"]),
  (0x1c4, ["DZ", "Dz", "dz", "LJ", "Lj", "lj", "NJ", "Nj", "nj"]),
  (0x1f1, ["DZ", "Dz", "dz"]),
  (0x2025, ["..", "..."]),
  (0x203c, ["!!"]),
  (0x2047, ["??", "?!", "!?"]),
  (0x20a8, ["Rs"]),
  (0x2100, ["a/c", "a/s"]),
  (0x2105, ["c/o", "c/u"]),
  (0x2116, ["No"]),
  (0x2120, ["SM", "TEL", "TM"]),
  (0x213b, ["FAX"]),
  (0x2150, ["17", "19", "110", "13", "23", "15", "25", "35", "45", "16", "56", "18"]),
  (0x215c, ["38", "58", "78"]),
  (0x2161, ["II", "III", "IV"]),
  (0x2165, ["VI", "VII", "VIII", "IX"]),
  (0x216a, ["XI", "XII"]),
  (0x2171, ["ii", "iii", "iv"]),
  (0x2175, ["vi", "vii", "viii", "ix"]),
  (0x217a, ["xi", "xii"]),
  (0x2189, ["03"]),
  (0x2469, ["10", "11", "12", "13", "14", "15", "16", "17", "18", "19", "20", "(1)"]),
  (0x2475, ["(2)", "(3)", "(4)", "(5)", "(6)", "(7)", "(8)", "(9)", "(10)", "(11)", "(12)", "(13)"]),
  (0x2481, ["(14)", "(15)", "(16)", "(17)", "(18)", "(19)", "(20)", "1.", "2.", "3.", "4.", "5."]),
  (0x248d, ["6.", "7.", "8.", "9.", "10.", "11.", "12.", "13.", "14.", "15.", "16.", "17."]),
  (0x2499, ["18.", "19.", "20.", "(a)", "(b)", "(c)", "(d)", "(e)", "(f)", "(g)", "(h)", "(i)"]),
  (0x24a5, ["(j)", "(k)", "(l)", "(m)", "(n)", "(o)", "(p)", "(q)", "(r)", "(s)", "(t)", "(u)"]),
  (0x24b1, ["(v)", "(w)", "(x)", "(y)", "(z)"]),
  (0x2a74, ["::=", "==", "==="]),
  (0x3200, ["()", "()", "()", "()", "()", "()", "()", "()", "()", "()", "()", "()"]),
  (0x320c, ["()", "()", "()", "()", "()", "()", "()", "()", "()", "()", "()", "()"]),
  (0x3218, ["()", "()", "()", "()", "()", "()", "()"]),
  (0x3220, ["()", "()", "()", "()", "()", "()", "()", "()", "()", "()", "()", "()"]),
  (0x322c, ["()", "()", "()", "()", "()", "()", "()", "()", "()", "()", "()", "()"]),
  (0x3238, ["()", "()", "()", "()", "()", "()", "()", "()", "()", "()", "()", "()"]),
  (0x3250, ["PTE", "21", "22", "23", "24", "25", "26", "27", "28", "29", "30", "31"]),
  (0x325c, ["32", "33", "34", "35"]),
  (0x32b1, ["36", "37", "38", "39", "40", "41", "42", "43", "44", "45", "46", "47"]),
  (0x32bd, ["48", "49", "50"]),
  (0x32c9, ["10", "11", "12", "Hg", "erg", "eV", "LTD"]),
  (0x3362, ["10", "11", "12", "13", "14", "15", "16", "17", "18", "19", "20", "21"]),
  (0x336e, ["22", "23", "24", "hPa", "da", "AU", "bar", "oV", "pc", "dm", "dm2", "dm3"]),
  (0x337a, ["IU"]),
  (0x3380, ["pA", "nA"]),
  (0x3383, ["mA", "kA", "KB", "MB", "GB", "cal", "kcal", "pF", "nF"]),
  (0x338e, ["mg", "kg", "Hz", "kHz", "MHz", "GHz", "THz"]),
  (0x3396, ["ml", "dl", "kl", "fm", "nm"]),
  (0x339c, ["mm", "cm", "km", "mm2", "cm2", "m2", "km2", "mm3", "cm3", "m3", "km3", "ms"]),
  (0x33a8, ["ms2", "Pa", "kPa", "MPa", "GPa", "rad", "rads", "rads2", "ps", "ns"]),
  (0x33b3, ["ms", "pV", "nV"]),
  (0x33b7, ["mV", "kV", "MV", "pW", "nW"]),
  (0x33bd, ["mW", "kW", "MW"]),
  (0x33c2, ["a.m.", "Bq", "cc", "cd", "Ckg", "Co.", "dB", "Gy", "ha", "HP", "in", "KK"]),
  (0x33ce, ["KM", "kt", "lm", "ln", "log", "lx", "mb", "mil", "mol", "PH", "p.m.", "PPM"]),
  (0x33da, ["PR", "sr", "Sv", "Wb", "Vm", "Am"]),
  (0x33e9, ["10", "11", "12", "13", "14", "15", "16", "17", "18", "19", "20", "21"]),
  (0x33f5, ["22", "23", "24", "25", "26", "27", "28", "29", "30", "31", "gal"]),
  (0xfb00, ["ff", "fi", "fl", "ffi", "ffl", "st", "st"]),
  (0xfdfa, ["   "]),
  (0xfe19, ["..."]),
  (0xfe30, [".."]),
  (0x1f100, ["0.", "0,", "1,", "2,", "3,", "4,", "5,", "6,", "7,", "8,", "9,"]),
  (0x1f110, ["(A)", "(B)", "(C)", "(D)", "(E)", "(F)", "(G)", "(H)", "(I)", "(J)", "(K)", "(L)"]),
  (0x1f11c, ["(M)", "(N)", "(O)", "(P)", "(Q)", "(R)", "(S)", "(T)", "(U)", "(V)", "(W)", "(X)"]),
  (0x1f128, ["(Y)", "(Z)"]),
  (0x1f12d, ["CD", "WZ"]),
  (0x1f14a, ["HV", "MV", "SD", "SS", "PPV", "WC"]),
  (0x1f16a, ["MC", "MD", "MR"]),
  (0x1f190, ["DJ"])]

end Text

end SelfBuild
