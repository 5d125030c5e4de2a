import Jukebox.Unicode.Composition

/-!
How letters join their neighbours, which characters are marks, and where a label may hold one of
the two invisible joiners.
-/

namespace Jukebox.Unicode

/-- How a character joins: 0 to the left, 1 to the right, 2 on both sides, 3 not at all and without
keeping its neighbours apart. -/
def joiningText : String := "
ad=3 300-36f=3 483-489=3 591-5bd=3 5bf=3 5c1-5c2=3 5c4-5c5=3 5c7=3 610-61a=3 61c=3 620=2 622-625=1
626=2 627=1 628=2 629=1 62a-62e=2 62f-632=1 633-63f=2 641-647=2 648=1 649-64a=2 64b-65f=3
66e-66f=2 670=3 671-673=1 675-677=1 678-687=2 688-699=1 69a-6bf=2 6c0=1 6c1-6c2=2 6c3-6cb=1 6cc=2
6cd=1 6ce=2 6cf=1 6d0-6d1=2 6d2-6d3=1 6d5=1 6d6-6dc=3 6df-6e4=3 6e7-6e8=3 6ea-6ed=3 6ee-6ef=1
6fa-6fc=2 6ff=2 70f=3 710=1 711=3 712-714=2 715-719=1 71a-71d=2 71e=1 71f-727=2 728=1 729=2 72a=1
72b=2 72c=1 72d-72e=2 72f=1 730-74a=3 74d=1 74e-758=2 759-75b=1 75c-76a=2 76b-76c=1 76d-770=2
771=1 772=2 773-774=1 775-777=2 778-779=1 77a-77f=2 7a6-7b0=3 7ca-7ea=2 7eb-7f3=3 7fd=3 816-819=3
81b-823=3 825-827=3 829-82d=3 840=1 841-845=2 846-847=1 848=2 849=1 84a-853=2 854=1 855=2
856-858=1 859-85b=3 860=2 862-865=2 867=1 868=2 869-86a=1 870-882=1 886=2 889-88d=2 88e=1 88f=2
897-89f=3 8a0-8a9=2 8aa-8ac=1 8ae=1 8af-8b0=2 8b1-8b2=1 8b3-8b8=2 8b9=1 8ba-8c8=2 8ca-8e1=3
8e3-902=3 93a=3 93c=3 941-948=3 94d=3 951-957=3 962-963=3 981=3 9bc=3 9c1-9c4=3 9cd=3 9e2-9e3=3
9fe=3 a01-a02=3 a3c=3 a41-a42=3 a47-a48=3 a4b-a4d=3 a51=3 a70-a71=3 a75=3 a81-a82=3 abc=3
ac1-ac5=3 ac7-ac8=3 acd=3 ae2-ae3=3 afa-aff=3 b01=3 b3c=3 b3f=3 b41-b44=3 b4d=3 b55-b56=3
b62-b63=3 b82=3 bc0=3 bcd=3 c00=3 c04=3 c3c=3 c3e-c40=3 c46-c48=3 c4a-c4d=3 c55-c56=3 c62-c63=3
c81=3 cbc=3 cbf=3 cc6=3 ccc-ccd=3 ce2-ce3=3 d00-d01=3 d3b-d3c=3 d41-d44=3 d4d=3 d62-d63=3 d81=3
dca=3 dd2-dd4=3 dd6=3 e31=3 e34-e3a=3 e47-e4e=3 eb1=3 eb4-ebc=3 ec8-ece=3 f18-f19=3 f35=3 f37=3
f39=3 f71-f7e=3 f80-f84=3 f86-f87=3 f8d-f97=3 f99-fbc=3 fc6=3 102d-1030=3 1032-1037=3 1039-103a=3
103d-103e=3 1058-1059=3 105e-1060=3 1071-1074=3 1082=3 1085-1086=3 108d=3 109d=3 135d-135f=3
1712-1714=3 1732-1733=3 1752-1753=3 1772-1773=3 17b4-17b5=3 17b7-17bd=3 17c6=3 17c9-17d3=3 17dd=3
1807=2 180b-180d=3 180f=3 1820-1878=2 1885-1886=3 1887-18a8=2 18a9=3 18aa=2 1920-1922=3
1927-1928=3 1932=3 1939-193b=3 1a17-1a18=3 1a1b=3 1a56=3 1a58-1a5e=3 1a60=3 1a62=3 1a65-1a6c=3
1a73-1a7c=3 1a7f=3 1ab0-1add=3 1ae0-1aeb=3 1b00-1b03=3 1b34=3 1b36-1b3a=3 1b3c=3 1b42=3
1b6b-1b73=3 1b80-1b81=3 1ba2-1ba5=3 1ba8-1ba9=3 1bab-1bad=3 1be6=3 1be8-1be9=3 1bed=3 1bef-1bf1=3
1c2c-1c33=3 1c36-1c37=3 1cd0-1cd2=3 1cd4-1ce0=3 1ce2-1ce8=3 1ced=3 1cf4=3 1cf8-1cf9=3 1dc0-1dff=3
200b=3 200e-200f=3 202a-202e=3 2060-2064=3 206a-206f=3 20d0-20f0=3 2cef-2cf1=3 2d7f=3 2de0-2dff=3
302a-302d=3 3099-309a=3 a66f-a672=3 a674-a67d=3 a69e-a69f=3 a6f0-a6f1=3 a802=3 a806=3 a80b=3
a825-a826=3 a82c=3 a840-a871=2 a872=0 a8c4-a8c5=3 a8e0-a8f1=3 a8ff=3 a926-a92d=3 a947-a951=3
a980-a982=3 a9b3=3 a9b6-a9b9=3 a9bc-a9bd=3 a9e5=3 aa29-aa2e=3 aa31-aa32=3 aa35-aa36=3 aa43=3
aa4c=3 aa7c=3 aab0=3 aab2-aab4=3 aab7-aab8=3 aabe-aabf=3 aac1=3 aaec-aaed=3 aaf6=3 abe5=3 abe8=3
abed=3 fb1e=3 fe00-fe0f=3 fe20-fe2f=3 feff=3 fff9-fffb=3 101fd=3 102e0=3 10376-1037a=3
10a01-10a03=3 10a05-10a06=3 10a0c-10a0f=3 10a38-10a3a=3 10a3f=3 10ac0-10ac4=2 10ac5=1 10ac7=1
10ac9-10aca=1 10acd=0 10ace-10ad2=1 10ad3-10ad6=2 10ad7=0 10ad8-10adc=2 10add=1 10ade-10ae0=2
10ae1=1 10ae4=1 10ae5-10ae6=3 10aeb-10aee=2 10aef=1 10b80=2 10b81=1 10b82=2 10b83-10b85=1
10b86-10b88=2 10b89=1 10b8a-10b8b=2 10b8c=1 10b8d=2 10b8e-10b8f=1 10b90=2 10b91=1 10ba9-10bac=1
10bad-10bae=2 10d00=0 10d01-10d21=2 10d22=1 10d23=2 10d24-10d27=3 10d69-10d6d=3 10eab-10eac=3
10ec2=1 10ec3-10ec4=2 10ec6-10ec7=2 10efa-10eff=3 10f30-10f32=2 10f33=1 10f34-10f44=2
10f46-10f50=3 10f51-10f53=2 10f54=1 10f70-10f73=2 10f74-10f75=1 10f76-10f81=2 10f82-10f85=3
10fb0=2 10fb2-10fb3=2 10fb4-10fb6=1 10fb8=2 10fb9-10fba=1 10fbb-10fbc=2 10fbd=1 10fbe-10fbf=2
10fc1=2 10fc2-10fc3=1 10fc4=2 10fc9=1 10fca=2 10fcb=0 11001=3 11038-11046=3 11070=3 11073-11074=3
1107f-11081=3 110b3-110b6=3 110b9-110ba=3 110c2=3 11100-11102=3 11127-1112b=3 1112d-11134=3
11173=3 11180-11181=3 111b6-111be=3 111c9-111cc=3 111cf=3 1122f-11231=3 11234=3 11236-11237=3
1123e=3 11241=3 112df=3 112e3-112ea=3 11300-11301=3 1133b-1133c=3 11340=3 11366-1136c=3
11370-11374=3 113bb-113c0=3 113ce=3 113d0=3 113d2=3 113e1-113e2=3 11438-1143f=3 11442-11444=3
11446=3 1145e=3 114b3-114b8=3 114ba=3 114bf-114c0=3 114c2-114c3=3 115b2-115b5=3 115bc-115bd=3
115bf-115c0=3 115dc-115dd=3 11633-1163a=3 1163d=3 1163f-11640=3 116ab=3 116ad=3 116b0-116b5=3
116b7=3 1171d=3 1171f=3 11722-11725=3 11727-1172b=3 1182f-11837=3 11839-1183a=3 1193b-1193c=3
1193e=3 11943=3 119d4-119d7=3 119da-119db=3 119e0=3 11a01-11a0a=3 11a33-11a38=3 11a3b-11a3e=3
11a47=3 11a51-11a56=3 11a59-11a5b=3 11a8a-11a96=3 11a98-11a99=3 11b60=3 11b62-11b64=3 11b66=3
11c30-11c36=3 11c38-11c3d=3 11c3f=3 11c92-11ca7=3 11caa-11cb0=3 11cb2-11cb3=3 11cb5-11cb6=3
11d31-11d36=3 11d3a=3 11d3c-11d3d=3 11d3f-11d45=3 11d47=3 11d90-11d91=3 11d95=3 11d97=3
11ef3-11ef4=3 11f00-11f01=3 11f36-11f3a=3 11f40=3 11f42=3 11f5a=3 13430-13440=3 13447-13455=3
1611e-16129=3 1612d-1612f=3 16af0-16af4=3 16b30-16b36=3 16f4f=3 16f8f-16f92=3 16fe4=3
1bc9d-1bc9e=3 1bca0-1bca3=3 1cf00-1cf2d=3 1cf30-1cf46=3 1d167-1d169=3 1d173-1d182=3 1d185-1d18b=3
1d1aa-1d1ad=3 1d242-1d244=3 1da00-1da36=3 1da3b-1da6c=3 1da75=3 1da84=3 1da9b-1da9f=3
1daa1-1daaf=3 1e000-1e006=3 1e008-1e018=3 1e01b-1e021=3 1e023-1e024=3 1e026-1e02a=3 1e08f=3
1e130-1e136=3 1e2ae=3 1e2ec-1e2ef=3 1e4ec-1e4ef=3 1e5ee-1e5ef=3 1e6e3=3 1e6e6=3 1e6ee-1e6ef=3
1e6f5=3 1e8d0-1e8d6=3 1e900-1e943=2 1e944-1e94b=3 e0001=3 e0020-e007f=3 e0100-e01ef=3"

/-- The characters that are marks. -/
def markText : String := "
300-36fi 483-489i 591-5bdi 5bfi 5c1-5c2i 5c4-5c5i 5c7i 610-61ai 64b-65fi 670i 6d6-6dci 6df-6e4i
6e7-6e8i 6ea-6edi 711i 730-74ai 7a6-7b0i 7eb-7f3i 7fdi 816-819i 81b-823i 825-827i 829-82di
859-85bi 898-89fi 8ca-8e1i 8e3-903i 93a-93ci 93e-94fi 951-957i 962-963i 981-983i 9bci 9be-9c4i
9c7-9c8i 9cb-9cdi 9d7i 9e2-9e3i 9fei a01-a03i a3ci a3e-a42i a47-a48i a4b-a4di a51i a70-a71i a75i
a81-a83i abci abe-ac5i ac7-ac9i acb-acdi ae2-ae3i afa-affi b01-b03i b3ci b3e-b44i b47-b48i
b4b-b4di b55-b57i b62-b63i b82i bbe-bc2i bc6-bc8i bca-bcdi bd7i c00-c04i c3ci c3e-c44i c46-c48i
c4a-c4di c55-c56i c62-c63i c81-c83i cbci cbe-cc4i cc6-cc8i cca-ccdi cd5-cd6i ce2-ce3i d00-d03i
d3b-d3ci d3e-d44i d46-d48i d4a-d4di d57i d62-d63i d81-d83i dcai dcf-dd4i dd6i dd8-ddfi df2-df3i
e31i e34-e3ai e47-e4ei eb1i eb4-ebci ec8-ecdi f18-f19i f35i f37i f39i f3e-f3fi f71-f84i f86-f87i
f8d-f97i f99-fbci fc6i 102b-103ei 1056-1059i 105e-1060i 1062-1064i 1067-106di 1071-1074i
1082-108di 108fi 109a-109di 135d-135fi 1712-1715i 1732-1734i 1752-1753i 1772-1773i 17b4-17d3i
17ddi 180b-180di 180fi 1885-1886i 18a9i 1920-192bi 1930-193bi 1a17-1a1bi 1a55-1a5ei 1a60-1a7ci
1a7fi 1ab0-1acei 1b00-1b04i 1b34-1b44i 1b6b-1b73i 1b80-1b82i 1ba1-1badi 1be6-1bf3i 1c24-1c37i
1cd0-1cd2i 1cd4-1ce8i 1cedi 1cf4i 1cf7-1cf9i 1dc0-1dffi 20d0-20f0i 2cef-2cf1i 2d7fi 2de0-2dffi
302a-302fi 3099-309ai a66f-a672i a674-a67di a69e-a69fi a6f0-a6f1i a802i a806i a80bi a823-a827i
a82ci a880-a881i a8b4-a8c5i a8e0-a8f1i a8ffi a926-a92di a947-a953i a980-a983i a9b3-a9c0i a9e5i
aa29-aa36i aa43i aa4c-aa4di aa7b-aa7di aab0i aab2-aab4i aab7-aab8i aabe-aabfi aac1i aaeb-aaefi
aaf5-aaf6i abe3-abeai abec-abedi fb1ei fe00-fe0fi fe20-fe2fi 101fdi 102e0i 10376-1037ai
10a01-10a03i 10a05-10a06i 10a0c-10a0fi 10a38-10a3ai 10a3fi 10ae5-10ae6i 10d24-10d27i 10eab-10eaci
10f46-10f50i 10f82-10f85i 11000-11002i 11038-11046i 11070i 11073-11074i 1107f-11082i 110b0-110bai
110c2i 11100-11102i 11127-11134i 11145-11146i 11173i 11180-11182i 111b3-111c0i 111c9-111cci
111ce-111cfi 1122c-11237i 1123ei 112df-112eai 11300-11303i 1133b-1133ci 1133e-11344i 11347-11348i
1134b-1134di 11357i 11362-11363i 11366-1136ci 11370-11374i 11435-11446i 1145ei 114b0-114c3i
115af-115b5i 115b8-115c0i 115dc-115ddi 11630-11640i 116ab-116b7i 1171d-1172bi 1182c-1183ai
11930-11935i 11937-11938i 1193b-1193ei 11940i 11942-11943i 119d1-119d7i 119da-119e0i 119e4i
11a01-11a0ai 11a33-11a39i 11a3b-11a3ei 11a47i 11a51-11a5bi 11a8a-11a99i 11c2f-11c36i 11c38-11c3fi
11c92-11ca7i 11ca9-11cb6i 11d31-11d36i 11d3ai 11d3c-11d3di 11d3f-11d45i 11d47i 11d8a-11d8ei
11d90-11d91i 11d93-11d97i 11ef3-11ef6i 16af0-16af4i 16b30-16b36i 16f4fi 16f51-16f87i 16f8f-16f92i
16fe4i 16ff0-16ff1i 1bc9d-1bc9ei 1cf00-1cf2di 1cf30-1cf46i 1d165-1d169i 1d16d-1d172i 1d17b-1d182i
1d185-1d18bi 1d1aa-1d1adi 1d242-1d244i 1da00-1da36i 1da3b-1da6ci 1da75i 1da84i 1da9b-1da9fi
1daa1-1daafi 1e000-1e006i 1e008-1e018i 1e01b-1e021i 1e023-1e024i 1e026-1e02ai 1e130-1e136i 1e2aei
1e2ec-1e2efi 1e8d0-1e8d6i 1e944-1e94ai e0100-e01efi"

def joinings : Table := Table.read joiningText

def marks : Table := Table.read markText

def joining? (c : Nat) : Option Nat :=
  match joinings.find? c with
  | some (_, .constant n) => some n
  | _ => none

def isMark (c : Nat) : Bool := (marks.find? c).isSome

/-- A mark that suppresses the vowel of its letter. -/
def isVirama (c : Nat) : Bool := combiningClass c = 9

/-- Whether the nearest character that is not transparent joins in one of the given ways. -/
def joinsBy (ways : List Nat) : List Nat → Bool
  | [] => false
  | c :: rest =>
    match joining? c with
    | some 3 => joinsBy ways rest
    | some way => ways.contains way
    | none => false

/-- Whether each joiner of a label stands where it has a meaning: after a virama, and the one that
keeps letters apart also between letters that would join. `before` is what precedes, the nearest
first. -/
def joinersOk (before : List Nat) : List Nat → Bool
  | [] => true
  | c :: rest =>
    let afterVirama := before.head?.any isVirama
    let here :=
      if c = 0x200C then
        afterVirama || (joinsBy [0, 2] before && joinsBy [1, 2] rest)
      else if c = 0x200D then afterVirama
      else true
    here && joinersOk (c :: before) rest

end Jukebox.Unicode
