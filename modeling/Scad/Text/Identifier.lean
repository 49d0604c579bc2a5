import Scad.Text.CodePoint

/-!
Which characters names in a script are made of: letters, digits and the
underscore, and beyond ASCII the letters, marks and digits of all scripts, listed
as runs of code points.
-/

namespace Scad
namespace Identifier

def initial : List Nat := lengths 0 "
`N/8/2/3E/M/fZ2:<35///_S3/011//4//1///B/^S/`/6`J/T0/4W^GI22[YQ0/_5//=050810/>//LK^Y9/FO702/3D2/7/1/E
G593F/4?X^:^61/@/58=>26000D/5//121/>/;0/1<08/64200D/5/0/0/0M2//A1>7/1/D/5/0/31/@/=0E/96000D/5/0/31/L
0/1=/?//411/210///010111:D/^46/1/E/>1/H10/00L/26/1/E/8/31/M0/0=0?7/1/W0/>/3161F43@1F/7//05^:^0//;5^:
0///3/F///8//8/03//C2N/^?6/RI3_EYB/>4221/10512;:/?T//3/0Y/d9/205///20W/20O/205///20=/^9/20^CS>>^V041
jD0?/H3^K195@;A<@<;/1=^4Q/2/^C^Y5W//3^F8M^1L039Z2H^6E7^5^R/_/^/?6^6L;08ZHRW18R075Y01W2/4/01/3a6^@c00
40T0406///////M0^5/5//11/512042;31/5_F/;/>;_7/2/08//044//////>02332/?W^y9a[4210:T//3/0^85/>E75/5/5/
5/5/5/5/5hZ1G753032^V41/^Z/23Y/_0?N^0>h4at<^@m^M^C^.0bU1>80B^/>M0^PU70_90^@30///3F>/1/2/EK^4<^2^>4
1//09J8EGK5^/J/>3/883/WE1/6BE1/1^2//10030///F10951:4040475/5/Y/<4_EKe_V:E2^1c`PdZ0_<T5:33//8/;/3///
0/0/_>O`/4aP@^@0^6V8_I///1////////_PRH4H9^80M14040401Q:/H/A/0/=0<P_M^E^5bSK1^1^/N;L3T8L0R26/3X`B@R2R
2V6^4:9/=/5/0/9/=/5/0^CcQ7D86F4/X/7^E40//Z/01/0E8E7M^AA/08D8H^F^840^@/=2/1/KXK1KQ6/JI^68D8A;@_@^I^7^
3;^3;RdHX40^NK8/6DX@^.CIE:^5^900/;[NGHRK/0/6Q1/:^0<2C///Q@/G^T5///2/=/85^/T6000D/5/0/31/@/:3`B^5@2B1
L^0B0//a.^/W2R^0B/^;Y;/^GIS5a/Z_F^@M60/06/0/F=///_060U>///J/8V5/C/9^.A/@^IbO7/S?/^1L_B5/0/TC/G4/0/
N</d3Aa3/^Oq0_8_A?a:^x<_3=t;_y/iMcdMi?5M?^O?L@^0>2MC3AkZ^@_R^K3/^B;^@0//Jaj@6wXX7ck92/5/0/c=[1?26eJ^
q6_=3;1758ag8^U/^G/00/0002/:///5/^A/206/5/J/2/3//15/d@0G/G/M/G/M/G/M/G/M/G/6^g2MgC[85>/c[L@ZxH5/2/
0/=/a;^;^D5/w62/I/0//0//8/2////4/2//////1/0//0//////////0//02/5/2/2///8/?31/3/?`c2^]yNN`];5aT0ab:<bi
C_dChR^_P`n?".toList

def further : List Nat := lengths 0 "
`[/iN_BE/bC3bQ[///0/0//^H9^0M4/_750400/208E/LI^[9=8O77/F2/7/1/3Y1^<6XF/O^61/@/58008?1^8//500017/800
8</01^8//320011/B:1/91^8//6/1/1B00884/1^8//50001518008@/^;311/27/<8>3^7//5/1/2509008?1^8//5/1/250900
8>2^70/5/1/27/8008?1^F/24///64800^=//6:6/8^W//89408^>0489/////20^1B/039/R7/_6B/8:221/10512;:/=l;177q
62J1K0L0^@N7/08O1/9`3/_H:2:88_R9^<3^98/K0948D</>^13^/?98?7:1L;08Z<^0B6848_H1/C2/4/01a<^@iE0A/_M;2/
1:_cP1`1/_2Ni04_;0ru/8^E/28N0^P0bX/1/2/E32/^S0^2@884@;9J6G;Z2^/<=89/88^/<:/6008O1^2//10030//W330b46/
008kqB/m/>>>10F1a68S/_00j5/aX/`93c?8zO1/032V12/`I0iC268e/0`=9^12_L1^5=M90082[95/[841R</830Z/:1^0<6
2/:^R:4/`D:3842^70/500017/800513a6@782/^QB:8aK507I0^R?=8^Q;68^S=28b:=`I8^F4/002///0:8_I5051/J8V5/26/
79^.>eS6/6>8^8D/<_L41//0/5//68^03/0/368d52jzM8^V8T3^;5G8s///^752^Q/90kcM0`i;^.0EhR3146605L2`81^]S^2h
4^72^26/</D3/=zH5/?05/0/3bM578dP/^=<^_D5_?538`jB8p]u<b8".toList

def isLetter (c : Char) : Bool :=
  ('a' ≤ c && c ≤ 'z') || ('A' ≤ c && c ≤ 'Z') || c == '_'

def isDigit (c : Char) : Bool := '0' ≤ c && c ≤ '9'

def isInitial (c : Char) : Bool := isLetter c || (128 ≤ c.toNat && isInRun c.toNat initial)

def isFurther (c : Char) : Bool :=
  isInitial c || isDigit c || (128 ≤ c.toNat && isInRun c.toNat further)

/-- Is the character of the kind that names are made of, fit for one or not? -/
def isCandidate (c : Char) : Bool := isLetter c || isDigit c || 128 ≤ c.toNat

/-- The words of a list. -/
def words (list : String) : List String :=
  ((list.splitOn "\n").flatMap (·.splitOn " ")).filter (· != "")

end Identifier
end Scad
