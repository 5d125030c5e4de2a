import Jukebox.Unicode.Table

/-!
The direction classes of characters, and the rule for labels of names that are written from right
to left.
-/

namespace Jukebox.Unicode

/-- The direction class of a character, as far as the rule for labels tells classes apart. -/
inductive Direction
  | leftToRight
  | rightToLeft
  | arabicLetter
  | arabicNumber
  | europeanNumber
  | europeanSeparator
  | commonSeparator
  | europeanTerminator
  | otherNeutral
  | boundaryNeutral
  | nonspacingMark
deriving DecidableEq, Repr

/-- The characters that are not left-to-right letters: classes 0 to 9 are those of `Direction`
from the second on. -/
def directionText : String := "
0-8=8 e-1b=8 21-22=7 23-25=6 26-2a=7 2b=4 2c=5 2d=4 2e-2f=5 30-39=3 3a=5 3b-40=7 5b-60=7 7b-7e=7
7f-84=8 86-9f=8 a0=5 a1=7 a2-a5=6 a6-a9=7 ab-ac=7 ad=8 ae-af=7 b0-b1=6 b2-b3=3 b4=7 b6-b8=7 b9=3
bb-bf=7 d7=7 f7=7 2b9-2ba=7 2c2-2cf=7 2d2-2df=7 2e5-2ed=7 2ef-2ff=7 300-36f=9 374-375=7 37e=7
384-385=7 387=7 3f6=7 483-489=9 58a=7 58d-58e=7 58f=6 591-5bd=9 5be=0 5bf=9 5c0=0 5c1-5c2=9 5c3=0
5c4-5c5=9 5c6=0 5c7=9 5d0-5ea=0 5ef-5f4=0 600-605=2 606-607=7 608=1 609-60a=6 60b=1 60c=5 60d=1
60e-60f=7 610-61a=9 61b-64a=1 64b-65f=9 660-669=2 66a=6 66b-66c=2 66d-66f=1 670=9 671-6d5=1
6d6-6dc=9 6dd=2 6de=7 6df-6e4=9 6e5-6e6=1 6e7-6e8=9 6e9=7 6ea-6ed=9 6ee-6ef=1 6f0-6f9=3 6fa-70d=1
70f-710=1 711=9 712-72f=1 730-74a=9 74d-7a5=1 7a6-7b0=9 7b1=1 7c0-7ea=0 7eb-7f3=9 7f4-7f5=0
7f6-7f9=7 7fa=0 7fd=9 7fe-815=0 816-819=9 81a=0 81b-823=9 824=0 825-827=9 828=0 829-82d=9
830-83e=0 840-858=0 859-85b=9 85e=0 860-86a=1 870-88e=1 890-891=2 898-89f=9 8a0-8c9=1 8ca-8e1=9
8e2=2 8e3-902=9 93a=9 93c=9 941-948=9 94d=9 951-957=9 962-963=9 981=9 9bc=9 9c1-9c4=9 9cd=9
9e2-9e3=9 9f2-9f3=6 9fb=6 9fe=9 a01-a02=9 a3c=9 a41-a42=9 a47-a48=9 a4b-a4d=9 a51=9 a70-a71=9
a75=9 a81-a82=9 abc=9 ac1-ac5=9 ac7-ac8=9 acd=9 ae2-ae3=9 af1=6 afa-aff=9 b01=9 b3c=9 b3f=9
b41-b44=9 b4d=9 b55-b56=9 b62-b63=9 b82=9 bc0=9 bcd=9 bf3-bf8=7 bf9=6 bfa=7 c00=9 c04=9 c3c=9
c3e-c40=9 c46-c48=9 c4a-c4d=9 c55-c56=9 c62-c63=9 c78-c7e=7 c81=9 cbc=9 ccc-ccd=9 ce2-ce3=9
d00-d01=9 d3b-d3c=9 d41-d44=9 d4d=9 d62-d63=9 d81=9 dca=9 dd2-dd4=9 dd6=9 e31=9 e34-e3a=9 e3f=6
e47-e4e=9 eb1=9 eb4-ebc=9 ec8-ecd=9 f18-f19=9 f35=9 f37=9 f39=9 f3a-f3d=7 f71-f7e=9 f80-f84=9
f86-f87=9 f8d-f97=9 f99-fbc=9 fc6=9 102d-1030=9 1032-1037=9 1039-103a=9 103d-103e=9 1058-1059=9
105e-1060=9 1071-1074=9 1082=9 1085-1086=9 108d=9 109d=9 135d-135f=9 1390-1399=7 1400=7
169b-169c=7 1712-1714=9 1732-1733=9 1752-1753=9 1772-1773=9 17b4-17b5=9 17b7-17bd=9 17c6=9
17c9-17d3=9 17db=6 17dd=9 17f0-17f9=7 1800-180a=7 180b-180d=9 180e=8 180f=9 1885-1886=9 18a9=9
1920-1922=9 1927-1928=9 1932=9 1939-193b=9 1940=7 1944-1945=7 19de-19ff=7 1a17-1a18=9 1a1b=9
1a56=9 1a58-1a5e=9 1a60=9 1a62=9 1a65-1a6c=9 1a73-1a7c=9 1a7f=9 1ab0-1ace=9 1b00-1b03=9 1b34=9
1b36-1b3a=9 1b3c=9 1b42=9 1b6b-1b73=9 1b80-1b81=9 1ba2-1ba5=9 1ba8-1ba9=9 1bab-1bad=9 1be6=9
1be8-1be9=9 1bed=9 1bef-1bf1=9 1c2c-1c33=9 1c36-1c37=9 1cd0-1cd2=9 1cd4-1ce0=9 1ce2-1ce8=9 1ced=9
1cf4=9 1cf8-1cf9=9 1dc0-1dff=9 1fbd=7 1fbf-1fc1=7 1fcd-1fcf=7 1fdd-1fdf=7 1fed-1fef=7 1ffd-1ffe=7
200b-200d=8 200f=0 2010-2027=7 202f=5 2030-2034=6 2035-2043=7 2044=5 2045-205e=7 2060-2064=8
206a-206f=8 2070=3 2074-2079=3 207a-207b=4 207c-207e=7 2080-2089=3 208a-208b=4 208c-208e=7
20a0-20c0=6 20d0-20f0=9 2100-2101=7 2103-2106=7 2108-2109=7 2114=7 2116-2118=7 211e-2123=7 2125=7
2127=7 2129=7 212e=6 213a-213b=7 2140-2144=7 214a-214d=7 2150-215f=7 2189-218b=7 2190-2211=7
2212=4 2213=6 2214-2335=7 237b-2394=7 2396-2426=7 2440-244a=7 2460-2487=7 2488-249b=3 24ea-26ab=7
26ad-27ff=7 2900-2b73=7 2b76-2b95=7 2b97-2bff=7 2ce5-2cea=7 2cef-2cf1=9 2cf9-2cff=7 2d7f=9
2de0-2dff=9 2e00-2e5d=7 2e80-2e99=7 2e9b-2ef3=7 2f00-2fd5=7 2ff0-2ffb=7 3001-3004=7 3008-3020=7
302a-302d=9 3030=7 3036-3037=7 303d-303f=7 3099-309a=9 309b-309c=7 30a0=7 30fb=7 31c0-31e3=7
321d-321e=7 3250-325f=7 327c-327e=7 32b1-32bf=7 32cc-32cf=7 3377-337a=7 33de-33df=7 33ff=7
4dc0-4dff=7 a490-a4c6=7 a60d-a60f=7 a66f-a672=9 a673=7 a674-a67d=9 a67e-a67f=7 a69e-a69f=9
a6f0-a6f1=9 a700-a721=7 a788=7 a802=9 a806=9 a80b=9 a825-a826=9 a828-a82b=7 a82c=9 a838-a839=6
a874-a877=7 a8c4-a8c5=9 a8e0-a8f1=9 a8ff=9 a926-a92d=9 a947-a951=9 a980-a982=9 a9b3=9 a9b6-a9b9=9
a9bc-a9bd=9 a9e5=9 aa29-aa2e=9 aa31-aa32=9 aa35-aa36=9 aa43=9 aa4c=9 aa7c=9 aab0=9 aab2-aab4=9
aab7-aab8=9 aabe-aabf=9 aac1=9 aaec-aaed=9 aaf6=9 ab6a-ab6b=7 abe5=9 abe8=9 abed=9 fb1d=0 fb1e=9
fb1f-fb28=0 fb29=4 fb2a-fb36=0 fb38-fb3c=0 fb3e=0 fb40-fb41=0 fb43-fb44=0 fb46-fb4f=0 fb50-fbc2=1
fbd3-fd3d=1 fd3e-fd4f=7 fd50-fd8f=1 fd92-fdc7=1 fdcf=7 fdf0-fdfc=1 fdfd-fdff=7 fe00-fe0f=9
fe10-fe19=7 fe20-fe2f=9 fe30-fe4f=7 fe50=5 fe51=7 fe52=5 fe54=7 fe55=5 fe56-fe5e=7 fe5f=6
fe60-fe61=7 fe62-fe63=4 fe64-fe66=7 fe68=7 fe69-fe6a=6 fe6b=7 fe70-fe74=1 fe76-fefc=1 feff=8
ff01-ff02=7 ff03-ff05=6 ff06-ff0a=7 ff0b=4 ff0c=5 ff0d=4 ff0e-ff0f=5 ff10-ff19=3 ff1a=5
ff1b-ff20=7 ff3b-ff40=7 ff5b-ff65=7 ffe0-ffe1=6 ffe2-ffe4=7 ffe5-ffe6=6 ffe8-ffee=7 fff9-fffd=7
10101=7 10140-1018c=7 10190-1019c=7 101a0=7 101fd=9 102e0=9 102e1-102fb=3 10376-1037a=9
10800-10805=0 10808=0 1080a-10835=0 10837-10838=0 1083c=0 1083f-10855=0 10857-1089e=0
108a7-108af=0 108e0-108f2=0 108f4-108f5=0 108fb-1091b=0 1091f=7 10920-10939=0 1093f=0
10980-109b7=0 109bc-109cf=0 109d2-10a00=0 10a01-10a03=9 10a05-10a06=9 10a0c-10a0f=9 10a10-10a13=0
10a15-10a17=0 10a19-10a35=0 10a38-10a3a=9 10a3f=9 10a40-10a48=0 10a50-10a58=0 10a60-10a9f=0
10ac0-10ae4=0 10ae5-10ae6=9 10aeb-10af6=0 10b00-10b35=0 10b39-10b3f=7 10b40-10b55=0 10b58-10b72=0
10b78-10b91=0 10b99-10b9c=0 10ba9-10baf=0 10c00-10c48=0 10c80-10cb2=0 10cc0-10cf2=0 10cfa-10cff=0
10d00-10d23=1 10d24-10d27=9 10d30-10d39=2 10e60-10e7e=2 10e80-10ea9=0 10eab-10eac=9 10ead=0
10eb0-10eb1=0 10f00-10f27=0 10f30-10f45=1 10f46-10f50=9 10f51-10f59=1 10f70-10f81=0 10f82-10f85=9
10f86-10f89=0 10fb0-10fcb=0 10fe0-10ff6=0 11001=9 11038-11046=9 11052-11065=7 11070=9
11073-11074=9 1107f-11081=9 110b3-110b6=9 110b9-110ba=9 110c2=9 11100-11102=9 11127-1112b=9
1112d-11134=9 11173=9 11180-11181=9 111b6-111be=9 111c9-111cc=9 111cf=9 1122f-11231=9 11234=9
11236-11237=9 1123e=9 112df=9 112e3-112ea=9 11300-11301=9 1133b-1133c=9 11340=9 11366-1136c=9
11370-11374=9 11438-1143f=9 11442-11444=9 11446=9 1145e=9 114b3-114b8=9 114ba=9 114bf-114c0=9
114c2-114c3=9 115b2-115b5=9 115bc-115bd=9 115bf-115c0=9 115dc-115dd=9 11633-1163a=9 1163d=9
1163f-11640=9 11660-1166c=7 116ab=9 116ad=9 116b0-116b5=9 116b7=9 1171d-1171f=9 11722-11725=9
11727-1172b=9 1182f-11837=9 11839-1183a=9 1193b-1193c=9 1193e=9 11943=9 119d4-119d7=9
119da-119db=9 119e0=9 11a01-11a06=9 11a09-11a0a=9 11a33-11a38=9 11a3b-11a3e=9 11a47=9
11a51-11a56=9 11a59-11a5b=9 11a8a-11a96=9 11a98-11a99=9 11c30-11c36=9 11c38-11c3d=9 11c92-11ca7=9
11caa-11cb0=9 11cb2-11cb3=9 11cb5-11cb6=9 11d31-11d36=9 11d3a=9 11d3c-11d3d=9 11d3f-11d45=9
11d47=9 11d90-11d91=9 11d95=9 11d97=9 11ef3-11ef4=9 11fd5-11fdc=7 11fdd-11fe0=6 11fe1-11ff1=7
16af0-16af4=9 16b30-16b36=9 16f4f=9 16f8f-16f92=9 16fe2=7 16fe4=9 1bc9d-1bc9e=9 1bca0-1bca3=8
1cf00-1cf2d=9 1cf30-1cf46=9 1d167-1d169=9 1d173-1d17a=8 1d17b-1d182=9 1d185-1d18b=9 1d1aa-1d1ad=9
1d1e9-1d1ea=7 1d200-1d241=7 1d242-1d244=9 1d245=7 1d300-1d356=7 1d6db=7 1d715=7 1d74f=7 1d789=7
1d7c3=7 1d7ce-1d7ff=3 1da00-1da36=9 1da3b-1da6c=9 1da75=9 1da84=9 1da9b-1da9f=9 1daa1-1daaf=9
1e000-1e006=9 1e008-1e018=9 1e01b-1e021=9 1e023-1e024=9 1e026-1e02a=9 1e130-1e136=9 1e2ae=9
1e2ec-1e2ef=9 1e2ff=6 1e800-1e8c4=0 1e8c7-1e8cf=0 1e8d0-1e8d6=9 1e900-1e943=0 1e944-1e94a=9
1e94b=0 1e950-1e959=0 1e95e-1e95f=0 1ec71-1ecb4=1 1ed01-1ed3d=1 1ee00-1ee03=1 1ee05-1ee1f=1
1ee21-1ee22=1 1ee24=1 1ee27=1 1ee29-1ee32=1 1ee34-1ee37=1 1ee39=1 1ee3b=1 1ee42=1 1ee47=1 1ee49=1
1ee4b=1 1ee4d-1ee4f=1 1ee51-1ee52=1 1ee54=1 1ee57=1 1ee59=1 1ee5b=1 1ee5d=1 1ee5f=1 1ee61-1ee62=1
1ee64=1 1ee67-1ee6a=1 1ee6c-1ee72=1 1ee74-1ee77=1 1ee79-1ee7c=1 1ee7e=1 1ee80-1ee89=1
1ee8b-1ee9b=1 1eea1-1eea3=1 1eea5-1eea9=1 1eeab-1eebb=1 1eef0-1eef1=7 1f000-1f02b=7 1f030-1f093=7
1f0a0-1f0ae=7 1f0b1-1f0bf=7 1f0c1-1f0cf=7 1f0d1-1f0f5=7 1f100-1f10a=3 1f10b-1f10f=7 1f12f=7
1f16a-1f16f=7 1f1ad=7 1f260-1f265=7 1f300-1f6d7=7 1f6dd-1f6ec=7 1f6f0-1f6fc=7 1f700-1f773=7
1f780-1f7d8=7 1f7e0-1f7eb=7 1f7f0=7 1f800-1f80b=7 1f810-1f847=7 1f850-1f859=7 1f860-1f887=7
1f890-1f8ad=7 1f8b0-1f8b1=7 1f900-1fa53=7 1fa60-1fa6d=7 1fa70-1fa74=7 1fa78-1fa7c=7 1fa80-1fa86=7
1fa90-1faac=7 1fab0-1faba=7 1fac0-1fac5=7 1fad0-1fad9=7 1fae0-1fae7=7 1faf0-1faf6=7 1fb00-1fb92=7
1fb94-1fbca=7 1fbf0-1fbf9=3 e0001=8 e0020-e007f=8 e0100-e01ef=9"

def directions : Table := Table.read directionText

def direction (c : Nat) : Direction :=
  match directions.find? c with
  | some (_, .constant 0) => .rightToLeft
  | some (_, .constant 1) => .arabicLetter
  | some (_, .constant 2) => .arabicNumber
  | some (_, .constant 3) => .europeanNumber
  | some (_, .constant 4) => .europeanSeparator
  | some (_, .constant 5) => .commonSeparator
  | some (_, .constant 6) => .europeanTerminator
  | some (_, .constant 7) => .otherNeutral
  | some (_, .constant 8) => .boundaryNeutral
  | some (_, .constant 9) => .nonspacingMark
  | _ => .leftToRight

namespace Direction

/-- Whether a class makes the name that it occurs in one with a direction to check. -/
def isRightward (d : Direction) : Bool := d = rightToLeft || d = arabicLetter || d = arabicNumber

/-- The classes that a label of either direction may hold. -/
def isCommon (d : Direction) : Bool :=
  d = europeanNumber || d = europeanSeparator || d = commonSeparator ||
    d = europeanTerminator || d = otherNeutral || d = boundaryNeutral || d = nonspacingMark

/-- The last class of a label that is not a nonspacing mark. -/
def lastOf (ds : List Direction) : Option Direction :=
  (ds.filter fun d => d ≠ nonspacingMark).getLast?

/-- A label that starts from the right holds no left-to-right letter, ends in a letter or a number,
and does not mix the two kinds of numbers. -/
def rightwardOk (ds : List Direction) : Bool :=
  ds.all (fun d => isRightward d || isCommon d) &&
    (lastOf ds).any (fun d => isRightward d || d = europeanNumber) &&
    !(ds.contains europeanNumber && ds.contains arabicNumber)

/-- A label that starts from the left holds no right-to-left letter and ends in a letter or a
number. -/
def leftwardOk (ds : List Direction) : Bool :=
  ds.all (fun d => d = leftToRight || isCommon d) &&
    (lastOf ds).any (fun d => d = leftToRight || d = europeanNumber)

/-- The rule for a label of a name that has right-to-left characters: it starts with a letter, and
keeps to the direction of that letter. -/
def labelOk (ds : List Direction) : Bool :=
  match ds with
  | [] => true
  | rightToLeft :: _ | arabicLetter :: _ => rightwardOk ds
  | leftToRight :: _ => leftwardOk ds
  | _ => false

end Direction

end Jukebox.Unicode
