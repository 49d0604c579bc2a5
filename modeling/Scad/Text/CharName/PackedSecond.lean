/-!
The second quarter of the packed table of names.
-/

namespace Scad
namespace CharName

def packedSecond : String := "
gy!xXcW(G]jz;scLZ!p=l5d#iQ`7GOar?9K@IlsoZZT/Z@/[QPhs4<$wp:eLi^[?r4=Jut,z:UU.pXWO3FjKnAp3zU!$Z%>n=t`
o~<nRs[W!#Tv='9_,R,+1t+lzH&O9NBl3nP0K7^blq[_]:z!a^!/:A(Vxx%zH|D2`X]D.nyr2lT&/wDXO|qmnj5QPC1q|9CY|'
y!@7VkHj/0d1.wVA^b&9|^Bc8>`P7jE<*pIGSnDBXYt~~yRg/5`$8bb^#6qm?3gm?Ms~o?5)#!g@uPnj[/L3E@p0dtNM6]_4`tGV
ULGo@G=`6xg3r8+1U(YvQiu%TVYMiyYb8szLVZ;Ijbt`,fv6GN#?vJW9u=eUeX.[Cb6]AwD=.4l#FYsp(L[26)H6)>q@@9evU7yE
I^+~l;<!kD'cgB(;];,r^%l[@D.Kb`Dtv3psvgPLyABHH/)OiJY3FB1x$IHMAtKioJOSr/lYyIzZ%by`gk`c!f*4DyC4>9z@n<z]
tRO>.$p([!o/v=r2)&t|1H!SECJFh3Z_V0S81S+[wFILF&i]W|;%.u>rOv'hh+:yJr<WA.8wRMa#tSB*Agf/)y7AZZ6;+B9!~&n1
wKk[@!O]GiR&__d@(+1ok1OA#/Nh7VzuytVHRPbIQqrW=dv=w!^wv]f$0fm'G`fbBD1<[5kK1]^'FJiy+j3hcwIc+=ummc7]yn|k
YKFh925_)v)m$:(lVjFJ3=D*ixOU$Et:>w`i*xHIE81[JlAGSZX.W9Z(xQc@+]b#W!Fv#Uqf26|=g4v8BIgmZAF'Dh]^yc|x#8v
Y([P)*Zf[OmW5]T,GKmIe9w^2Q3>OyuRi7tXpwK*oT1KsU%!id3Ms?ABw*lH>v`MDT33cB63+Yu:Vf]'peSq0.f5Q0>5!r>bhP>
k=0F>ma#%O(oF+FXnEI^~:eeEJosMr|yC!fYWFp?*1UWWnM:LpeOsr%lGe~0%1Sk[6kC.@+mq7`WX$t<b5E7fOY_Zr=328&8C;#[
Z[b6NxAUvXReZOaK`tD~xpP^F+`@_;WYm~h7Oa|ZHtEuR0sTjEPq@sUX2j^VehFHQ_~H1[TuWB]B!_^yLyTJP&536oHr(j=aJ?QY
5jTE9dtOZhJohpEK#^A.^^3biK.agzRX04cciX!ZdnScTEOsRkF|Y<t88pK3SeeHfN78lCHq,h/S=S6~+(4`mjvP=HoOZquF|T]
0%80r&;Q.K6,qOK,~CxZVjgRjOuOoqxpRHn~!T3fa'*3(+@jA|]%eEuRsywm6gCkC8JrWWzP4?E`ri(q+%=|i$(<.h6xW`|@KMl
n|G7!|_&a6Iu6)@S#NkpF8991N;A/OeSd#y>PO@s84?Ms,7]in/*~L9>pDq;DQRZA2UQUma=BC$JE1D9.3lQ_LkXn0Z8'K%@&3cK
Y>_Sk[<Ea<qz]yt(&QlM)Xe?J^.xZA7o0V6A^,~OR;'Dj*CP?J+q!Y(:Eh71Op^'fE$09I'SE^1]N0@$:k`w^eH21jev?6|Abu~M
hm5B7;>kVL<6yFHEx;MbXSq+nnU#a3eLso/`8Xd9EbPb`UW$6vOJ'?'q!0ZXF44=>XBR?J$lr6(97CCw9@%Tn$qn<hJ1.55[$s84
D(kN4m.(<oDoCX`!&:C7*iuvXLb.e4?GH_w&cp%bw&w3J[ZB<z>F(4(F+glzC&]=U40T'<;un=WV9:|IsLEukv^nDGX&efBhC'k!
R>!]~MQ:)ptD@~up|<!?1x'Z/.^*q&qzft=<$6e+r=<1dKpOL>5wU22*ueC%i<IQuA(u;J_'gn]sHzE%t:34w0<EzIjQmk;xBF@
7;([eW%U%FhBUnA0*nx0Qe+~#>qmib'YB!54X~(Dm:]xx6#AkHEf=X9al.2M/$hle@1#2E:*9p'>v|Q1fw^)8_;^Ycvn;4]mv!37
RAx[u+uQjXEBf]Z7z8[l2a6h&SzSsk)4qR6s]fy6#2mJ!k#+G1'`LAlQB3lC9/p*)jWi77BI:QY2%&)n3U]d7JGIj?m[GZtuE7nj
SCX$tjXX8O:kH9y^x@+wv*;MF!6.9(IuY5T?%o`b(kG+Fh,Ey/60,p)_)(h]/Dc#Z8)wcuy/7+NCX.S][QbynXn=Rzgy_M~Dy!(Y
r#s)vTU9Th&n(a(+tpDd_q?enQ1AF!<hX7dAslD1rE):kD5gD3a/0=v8x2?40a28zthv_jRYe4@)Ag:k~n@N*Sz,>e0=zR@8pWit
tPizoiz.fVpeePGHm>_cziZi|:4tO[/f&OYhS0i+eiYQZA)[kUyIjtPA[[DZA:oLqBb=9d+VAU:LSZZq[i@UsuT`g%BLEbu[]P9u
S7b]fga+MxW8[J8?$LFP,'%e`kQpoH]Ul9B]Yd?H`;lWI1j?!Y!!WWY~'K/TX'%FO!_bW&/nsr&k/y!cC>P4G|T:8n'./*$5j/e
c<LS0O[+C0@3|>tDO'.IJtT_39^&*3f#ul3*$G;qwF8g(xR5fD(vGRxwQ|]^$+wF2g?T:2U~lo)L@KA&~h'l`#=4Ut2?$Fc@'pFe
4US;q:Djv#460y6K=|znz*_bv.J>563zqsN6vQ!y`OOMID$Gbr2gi;G6_4)B<u)0]FyG'aB3rMC0(qTQ,)^euWN9Esr(lunm|yBq
1kfgQL;^$7'rxY.VW8!k'z#Fp94^ITzBiWb1hP&mSJR91lXc_yrVEY.guTm2D4qjQb`?iQ+7w?j[Q!2U76:aJ,mXu`;Y&hszM
M'')^[fCWHD#.I*5iU?1gj9C6Ind+^G6J!zeF5_?Oy2MKaUU_K!@xnGHOYL8KE`hPtpt5ACd2vG7SIWww#2]HuRT:Rx7c|<eL<j*
h7Xs=u8tHA]hU+NdS|xvY!fs;rN8!*FvPRR/X&2LMN0w>l+N0?GrI2<kv5i5'Asz|&HiO<[*f*duO#eLal%azi29aNI>J:=&_g/N
dUscJ:fL;?E;,6j|[tU_PBa?T,)327'H8X,_b%;Gl^wyeS$c`72P'wEX&:G8,3|4g#F^9etH`:cTt_P7[vJ>w(3V7&Ib;g6IaoQ
B+F/z7opX6X%o9ne5E%i|xa&|[:)zvENyMmW10T:F6CwXtt(|C)Zyjf&h^j'/)9yCb3mOhQ'8e+iCMP2.`HttHodlc&?C8e+Py
x]^@:'Qb%p=P!^_>DIwiaaluF>gYzW.yS_|(e^v>N)ELipy/Oa#3DKOz|V?q!.q~WcXOb<W6|/bMyK3aN`anJ;#DxKQtPn?|KUiB
ZjuKMcp9Y2:tiT,3i8rf1)|'[,pAIgg:4<le':s>V7=G90O%.Pv.7EbH>Gp~/d&]s<A7l5S(iT_G&Sw2RbomnQB?;tkQu0csF+Zl
k<.IW1+q!u3y8Ymsg3!=?L7.1G=2^`sVT`lbL[BX0s/uf<:b9,`AE$~LOu=SyD3:QY`pGd+%sh?S.n=su,yAI@cRH8lF55)U`i5
Z[7)+FmR=BGWmh$wNM(d`D'|vx97UfwOsF;gOC<[_~c:s)hsbIo;/N!$mxIOd/R?:XWtqjzzzL_ntb_nt,x@br?Tz`cK)STjWR[g
t3RnLKsSfUsn6pyBaN`FqA'IDG]i^M3'#OZf~F7rw>F86m.)In`*!yprIeW(l9y(xD2q%=T_C7QFHw%ntDhNIM;Uj$TZx]x?=^r
2:ltf^=7&sxC=WrTklzTh6N*zS!@aN7z?2N1+#|:2b_<2a=C|PzK/bHi_Iy^SK%'2zZ*b,H>9d:U>0]O)X:zm,<<7g7pr))^_:A&
bJ`r`N!:xRg'CRUS#ymn>9CACkR)z__c0vmgyXoZhhR!WTY,Z7.TidW'HT7_Lm^#2E#upjj,Qvi?H,O[XUeNa|K/JXvvR'b;dR^U
NS@sC*d!>qn9*.d2&5_'IlTs9/2u^7T#`@ZGb@W!!nm>|W)e(c,|k#[I9mCXjY)/SaeONEol47oZ[>ATft@5rQdZfKWDIeB]d0qK
UVX5P(|eX/v(=ZBe?b|_d~b~<aq/$e.zqILw&G^Tk4<wn29OI:`S'WiL!YVA0F<h_ND*X^^7qU3!o8Z[xMD<5c0T0M'0HU7gX0|I
r(v@an1B)#]H>>dloDHg6_KrdKj2[J71@8J;;sp>W5*'S~fwQ_YOucn3.yhKZtjiTzR^K]!mEz<^)6G/QTEjC?md7m'N:zyiP@l)
QrT|H8BS%3.x3y^.oKK'@p69r/epB4LsKQEbhWzXWlcdCuLv$eEj<rkOlJA^cUhkdZ'%Oo))0mZ%xdu!()B?|S]ZUX#<>Gj3]:W<
P5L&_O@?qWMm%er[M[nRR+sj%4=SKouRR#x.N6;$s//+TM*NGSOBn=3H4,UceozS#/3`m_OqRZ.&p^8H_B$X.mZ`xw]swe,k9r+Q
7`xq4U,0c[AdG'S'oiXB|O=uNhIzMm|=3Ki[c,x<5z?6Em@ms?'$LncXo_`ugo&_w85&DZ._W6VvZ5o9jtOLM>()De.SXruO]W8
T+(Z7q46CTkW.4RKb0eUcM)UTLHeNFQ)WH$<7c$X^:'t#+x=9tBcOk3krMmCgl(G5A]B~w=!KE#0MmtHE&xkQ8SB^cHU&d!|6Nw1
B:;OC|l#hK@GjZY?UU<e.iwS_BN&IB9[RLNRDH/rg4W_<]ij4Y[n7]R`>Lu;H^RB[?Shj/|Qn9W|RsvEIvQ$ok$QZ^rDpu$,.'H
B@]giX%14i6#B&h3dANo^M&IE%6iHb?yE91<$Hb:L[7k5TrM,A.yZEW*`1$ZV@MWp%_),p$BE|62h',@h6@o/I7Uj7]vPf^J|
R~+*popZ%hk/B^z@st9[5AbPar&RA'd1%HSTds'pG/:5g%;xQ<g(C(d|7z[ku:Jo`>3(bKa1e7mRK6<8DqM(c0g`.lr?oqwF3!j
E<K+p^,!b,98@*mYV<em28D(^6[A.kp?vR8)7SV<;?UMut@XJ7/?$+o_a+:d46Acos|L4pV;v,<nlOqk1@n96o<xA@60kmJ_r&GG
OQyZeXxlR^<X2>IP#T>>E_3suI|O!vNPa6Z@$40*b^9d?^:6vcT]pJ=,@&o1Fi;Y+:4kAL&9LJ,<Ek=|P;?)Lw_^$b9>s9/ln2N
5?DOdVz3A#yKUW8Q=D_O4l=9@P6ySIx/|?7IEK%i~uFY4(3S)&1K2IuLm[^kdM=id1_M'(cviCJdtL;!3!aj|z?95pU,jXpsJoH
0<R_u:Fdk!MO5^EUzQFO#q4Rus:/M+f^^nThH`8GY`)u%beKC|oN]Sz]pc^f;t<251HtQ7r&9P7HWG@9I*uLYrTN@^7q]SaR^s,P
DL(tW)IH:IK0Q9mNgzQPq.hZ:P(jJXC^b*O@I?vs3&c$:Y~1#DQG^iNQVWK]D9m7k7PFxl:9q`K.1ODja6QcjJhZC?5bMy+o?
j>|.6%?YU%[5)mi#]Bmq_OY?SA]S[Q|RSI)]e#8a1H#2mqc4r8.x*O(K:Y:7TzcWs%0uB59q@;Vr6qV#+*uDkw7a*i?b>>Z(W]|j
NZKT$U#m8~ORKQm~%A8Fu^DNV(bhi?4RVM8M0;^;,31D;&W5<5Gx?M&ZX2;Fzp]k<e1[AG0fwYG%dk3%7['f1&iHo9[nGO+#ZJrQ
FcloA'n~&NXv[EJ<8`5JL)03%.$h5?)1_$^*lO&:h3D69U[0ik2@?KB|3U..WHliO#5'Ejp4DB'eMMfP~)^X<$R^IqsL=eI#H$o#
vJG(l03WP6G,uEd5S1JxGs+4L0wG?RQ)|gh(_3@IFFmYQBuq&Lj|SPvzpADt^'LzJ69#H.9iSigHX:x*9rrYdVwx~!)aGT?rdy67
9[<_bi;jD2ryY!6F<D&@m_1X/>KWS;3f9p<3DED=+6doo@dM?(Pg]sT_/uIYS!`(ES=Bv(:s5V9|:T<bBUzDy^AM;`,yv'K4NZ
5<@el<4:_@$M1CwBh!4zt40LI)FHo=:Lq~&mU]fs'nTCZmVLG@9s?A[YQvASnI2xBA^C$Gg.4T@mD&j_h$p)qngaG8[0UAy6JC0=
f9&NO|1:Z,T6mk`<*!eam?N&~#dNpL86h0E9v4_R6&/&hie2:Ec`onlEhDBICjcEP!0pN0i1`rN%s%xYMgUm;~tCO,HM'o$ylT$0
X_DsB=[]8w3g:UQI6$V9D<%!Jkvs!s2hSpA7T,ksfEs#Gujq]Kd]veZrMiZO,M2S.$si.Hf/GE<ToySfg~KuH^gr3@1UDtB:,Fwu
Q&o7C]DPCWIiH>YP;/&$W3N>|$6ZXTF5)'8w&EXnkUj0o`K8h6YLNj3(HjRTCLg5f&Y'Tt:]Rc/bS<^#i'^6y6cq!AOnU#&`^J8
T`:XMv)KEBH;b/=R_Qa7HH,.Yq?EkLYA6Q4l]rTQ^aI`%HIWjxwgs?7s6M'$j>tY'y9G0Wy^9hz[vKj$:9dUn&!'(!Z~ORzc
X@`!?h27KSN05r9dC)3NA<[[7%=uK~jHcDMpTQ:A^M=cye$z;F~O;L3FV!iww[ajL=Dnzh8O%R2.J`ASSHe.m,h'@,,C[kG_.Z!'
tjWM%~fNV#8S&+R;yM3`OaL/WFoF*$85zi:2wr,|rLTOf9c#Lb^mYU4,m/ygn~OY@!_NiS/nj<QIE^`[KF~9A(eN>v&'$]q]c+T
d=zmjF4JvK#>Q+v:Fp$pq1kZ*uYzf+7iUyVCpj^q9FA/TrgV5b|$0cI=<j2K:6yNZF<cUNucYou^/7x/Se=(/=>i6$ry@ys^LyXT
g,|Kq'm]9,5hk&Shk0%~.A3Cq$JgkZ.(nJL3O|KqQ~02:R77@%&Az4v[Wj&yKB<i+3T^55z~.J$%:+mR2*ZfH99Lqi$@eOt&$pl
2[=IU:]8QG7:$#Mob4/?2DL]k)UJ:~oV?8aUMTtOq<?9vY%+%&),1Q;hn;D&Cbd%R!O<&:;OU6hKNwc@V=Nio_kP7fLb0@fTmW6
d/G4.:5fMQMo0JaK[F85BXIuBUF,!4$Av0lcTP^AZn@w(BNqTu$F:A4b,_1:/hTIEwzAkPd&pZyE?4c[J^^UMo.''z~AZOnJUdx%
Y2t6v*^5Y&.W@Az<2A1f.yt'q1p~y^%OoJQg=5q6'?ahRo5L$zEwx/?c:u)/<*L*:&cD#Iv=o!b@_mr7:icw)$Cl68RWT3u;<^H
f(;1l1;Oj7f>VbuDg8wvckmO(+`!8M9hcJXCOdgC1fXmAAA&BXOR=hF`9QECPJ5]lF?Vmlf_&^'91Ga8!yMxQ8*WdZFE4&nvH9tC
A;Udm+[(F)g!N?OgIJf#'u]d4[+R'c~~Dzi`,lKv9T139KV/g,Im=OQC31;8l;^aMUdYh.6vguN5$l;.~,3Krf7Nd+h'rY>>f=8G
qik*xB]+zhSs,x!]S[(rw;P`yLn+<F<0TTQ~m$iq.eJ<@#Z5@hB]h<h0H65>hH#'g(+/j1~,wI1T_#zc4ArkF[XaJbRF'ZmQA_H]
SW'dZbOR?A,S7hFA9vz#_lo+Q#My&^K1.,/E/iEZ8MvL*q?.*?~(<4B2Tt_Ru>;Tf;:OcG1m[%Z%v*jhc_O&r<Ghb2Oc8t[j#t`G
Ds`1gE+[0/Fbg#cGs>`bifDo9%aT$w)L'mQrrC~O+=0b*G.3L`&HV?0HeGu,PF$P(DCn]i%=TilrE17.:,k2N)HU|0,bqu`b3e
i/~=~2'7A0B?of#Ep2laO,'o4A%UwY!)mzXT@zXRi:^wIGLDSiP@[SKgw_EqRhj^#%w!^LIAFs5#J>W9'[st~K(k+ZC.xv!6]%J
A)_f&VDK3RA3;sCU#O0C(%FwEZJ24SD*`r|9JV$b#mhYJgQHVl5qQulwYwVRDFl0Rnd8~`|LRQ?^:yrukreftZF9;))|O:Qe_.@t
3iB|n4bjdLeRyl$ktm4(fd36(MiO%VZW8RU)8Imi?:flp0zyouNC`AxCkIH3O]AZ]22@3D1dN2?,t.%jvS|UR3^W7[:ZYnE#*Z*s
rA_Hbb2x7F*vT/^<c%4Rbx8#XJ]>7+fip3g'aI1j$$RQ1H;h&QECtU9Uw,;|gbPGy(F2LVQLV*5SIvG!(iN6iXzyY&RESEz_1A@b
k5UL9w8>*N'4_*kCIXzK;y<49|_vtQBF^Gy2XBdsZzvVV&t/hxshU>+[w<3E|)'(e~19HtV>mw@SSH1B0vm^2#r26G:nL!sx+X<D
nW7jD2|Spu/~w`ePh~x2U?DRHT/[@AE+GCHqDjjn#,lU'#w`_E%6/G?rskob:Cn3=ZOfR6ra[Fb)H;pDo@?Ld5DJkuAT0k1A~Bz;
hO0F1b2W?4.7/aJD;K:/GEsFHtk~A`SmZTz:$0$]Z+#dlfmNW2fMbp)2@F)+Q+H!cXvP%rYZ,]W4S(U?s5v6@S#6<~ilE6]%'4
y/=Y@UJDbB&_^H(1+8+5&*!p?r;~?<)M.o~gDUb<x5!qzBr0c2`Chs[v0UnZ9MInKMR<~O2:FQ6~lOh$8qFDTJN>R>Bapk=OUi%i
uunk=l'0v/,0)Gl8LY=LENo^[e]8>&/jUMTrg_=1R0]b$2m`wg]jy9Ak1jI2(Zk^fNW:CU@)rF9d_DJzb1YDF]W0Pq*j1ns,Uh~
M*Z|dsmU~GX)*rt$Pq4%0~^E:8*v$BYJ&E>4hNujPuhI=K+B+^:Wad#KYp1XFFVPds5CZVFY1dW:X5o^Wq<P*r8`UaGy^i=VX6Ij
R8R*ln=:T>(~|VH8XMcL35+'#U8Lu]BH4!>>Ib2#dq|c$`s_'gpKHQ0~ivl@z2iqim$/J@HfeGjHTQ.usNIjWA,.qsNr?:4z(z/b
iE&z4.A>zGFmHt#<ipeN0e|'cuK3Pezl<&C8CJ=wxeE3#]c4,7X3dPEj[Z*560'b+wVIs?=@d/*&DsVUU>9Bk8Qb@uA$PoZ^A.w
0(U|uecp^TS~.8N9<<W@OOYnUO*<Ob!LojDLy2<vU^l&>=0k_F|]5B'fN]k+V=*6KSa0I|JjIZg]&r@$uZ/+/fL/]iE.9PtLL^sp
zeco7>;oo/>Ki580[C_'[S8jhO+G%?YXpFm/JdtiMeL/bN).(3TiJC!5os2g1e#IgRO@.8x[#|_m|.:v~YG<AX`2QIg.q2si,rv
0%|gOC_95&7]:['f|`C?G`|YFcF#>^gJamIMDCAQPc]LZ~G#nHD|`OW|[`SHoZ9^v1Rsf)A2mv'9p6$,Nkm29~9jH'$k/8];lP?k
A4_]P3_N`jq<V:MvZ5$j_#3&~^:(ILZKb#dxX6nN|O]Xh+0Rb:5zLe$4!J4):`eU3IT/btIE1#)3wJJHTb?86_z5%]=i_d2^!0xs
8gm;=|z$n>23NYpHT6pQAcqA:v#f15s~1RX?dp4iZ#:t^B6YKkPz^a(/ei4Gy~+ztU/v|?1#tLi(4qwIB4s2[#by~H3l'!8J]OA
x<r);GI0ou>_n16#(^NCl1#=Lz?mb5kzQB(8MFnD>.eF~E2v=%<A@D+EBoaPT'#dml3Sq]0Blta7)1bj8ChY7bI'&+Gvd*3(``&k
gn2?F*NRbEO[V2_JTHXByG;S2~bB_Q7Br.G:HN;:XX4Gi&f_b%Z!9|O)cfv#ZqJ$YQidMG_ElR44JZw(s!kI5aUo9lVi'7W/YxL&
civv`k~MVFk5aVM@`)JHZ+xWCJ/?N<7E/[b'a6MQNSRkZX$5?o8Ccz513qVyb/Eu$YY>P4`_ZBrY9OHNoEh0Z34?|..x+dJ'aUiO
5,L)yxt3oN,c]rYmDm+fDEvJ7:$KfLM+IrIRK,8X>SJz*1d!mEtx~m1Sb;hChw,Q6PwW$8Ry7(vI*;nF@sAWfGSfN[JWD/xwA+*
V!Cx9|:&+(~A5q>$BJN8QXB'O|))&Oj$(Fp_~!BWbqnTc,D=8jC/X9LW6%m/XS)iHKnnx~eNAyf#?$RP>iPy@;/KaKv*3w`n;X6,
1oIx+PZ$!;?lv`Z@K+e#[pl!g!Z,3W^QSCmSlau'lnSm2Q&5.%&,iibB)gSl_R3Smep>GDjnM4>Bu11v0b>u0F2]+l;3Bz,=4l`Z
t`OFzY'[39K!5H2c6>RKN`>y:r~bkvE[%<=$,sQo^~IXX;|0i>]l2*dewg7.b;qA0c4e`b+Ymx<n=S2%=C_Ol,eQ$2!DX/Mn!G]5
DdW$HD=gKvLo~x'#w@0a,/V''dD,&QQ&`o8K[m*W|W+s(:V56ZFuS]n?l1U?zq|P*1qsIjKb#b5H71=#F:~g#ZOG0We[dVD?$Nf
X~Gx7pP],,.l.VrSz,sZq~HlsZ8v*'z._^%~o!4Jj`dc?ZAp()<&`MG(Z+v`2T*YrQz5d:J^i#PM`~nL4,&9d|5=p:9_P[,v&K;z
5=yC^rn`0K7Sm^I=!,L)iu@E,b[=WHUboSoVUb)vw!#W;HkpWpBt6Uq+8lr0k'Y[zbZh]8[8Cc*AhH<DkENf)f$752sDTA;)fPj_
JL6?@NL7cRU%jXC,24oH1&Ws;au:1lUUc;C@iC*VE*KyLj11tq`qX|@XGx)g`5kqy6TGPuaPKnk~ZwO9x:Vl<I+F0JNA@l)oQJ^
q(;EWPoTFGs&:Zl:i1=VM>P(vPxyp;IIHjm8TD^DI&HPCH%Z8`tg1ho#]w;Y]H?%8k=k%p$@`<l>>q^]cVeT8ulA|&yy%1@nhfi^
CA:i6e][1:?bLREgb`ZtFd/g?|Mg1oK9M~EqXFKd`BtOyrXW,^up&murdteBPqyBh|,<:T,aTiWOr%iQ.H'Mom7H`Hy6GE8:'5
Q<(X?+[b4lXxGbhD*#E&d'|y2$.dhzS)Ha<ELh]D]~UWaqA^r1|=$FEL2d2#/D^3+M%=!2UvFJn0#alXS7hjCHFsCSO/05BQjZG'
p2rs#u2$WpwWe0aUW&YV=i;rE_U&lC$I#o`u9FA/A)Ywl`WF~E(z'|qO!Kcc<W7M+9!ZSjyzAQLy*=6CSMg;<o`ECw7<apZo3PBq
LOLGv+$9(W6f~9rk|6m8jU89=/2)IUgEKS20z*sXdTO<raknoW<p_dxNtyF*sc_8Qe<8.M5S9E%(wfOX0$2W6Dq7QR[N@]slk9'
e|#;qX10x2`p83Iq5x3nhSv~PnFK`do8Zj]@Bwu=XSm>lSKEHXEM;QNSvgP<F+`xF,DVE7].sY|:x]2$CNarBHno1)mQ(0nD+<iU
I&b~%nJ~f_#F7I#_c5@H]r68D$rB@4B/?xO%MxWRJMajiDY1[62^eO$e3qRr@(6rsSMIR3>E/t%[uEo]XqFQNbNl3W3Hn2@x&uu,
WKysd[di5)(Pp7KUF(P5E9lr)((9;jVP6nLa%;KZSc30FF[F`gc$d,/yiW$S(tohNlqv(2M9&U8kyKGgHw8%UxhgaZ320^<xd
U#$^$DZ`;6%MNl&iHiCn0d|hAU,^&:'u=@6CkQtb7GJk#@2RQ#w60N5s0m[20@'K;m0)iT/#MOWc>.dGVM!C7GCB<s1ObO+oOu
v,&68uQ$.RUG^)M_4Q<`c>e4$8C+<v(F9.+,&,<)yt.p2kVo)I]UdlPN,09>^=3!>2gz^^~!2V=d8)$9W6'EviINb$Xil9D@XI`*
p0AE;G9!^ef:lY3v_@ATUofe;tecGRecV|PLCKv]@fLIDCv%%kIoJq%Y$1GGZ96:Zm&@c;^6x([_)3:Gz;8jT.h]`Ynm'DXA*M>N
jOhMF#Yy]x_nY?sO04MiOrumrX?.;#XH~vVuU_'6HPm.6/'9a*3H7&1Ok!WhSd|!408yHW5I!>()|/qPAK&:cY6c]=mBW;+X2Tk
O=V5ZfV>1gBV,T@@BmQ<GDZiSYW?<c<tv?mm<CQk!oVAs%~;OyYl]~8F~rYOkeqX>jUk<LHLB_R(1*7>k1M^WpV%_t;5X0]jAGi1
S>lW<0_F5p#wnt2M|3h`([)S*?Q~tUW7^TNIYk(F)@BdB%5TCWk=>ZiZ:j;]jHEu9q%ipn$j6P/UT1hMrAywm=C#0^!D'#$cA$?
j<C+QPQqDOUR?7t`R5*4#7isu7$26)[bkh7kZ!~(Uz@V/Ha:h>u('|p&d|`TU@Ha7ROF1~D1rtWFV7c:x7)Izq+;nzSPrBdzG91z
t03_EB(V0Q=WQ`nU36/wF_!^*h5chf+G,`/QHc_.F?cS]ap$HWtr0;i=I;l;xLtnlJ^sC08+QSA4jVs!+sYxDM1q)(n]`cP#E*N4
vJV(O@nC|d=_0v:aLkB&e$t/ycA?EjjxmP4:O+MCJKy/E,dN:&/Xod/3VGTt4+6l<(l_,V&+@GRLt'|>P8maMN'=vYC5bwjo9[e1
8;,DG)Xbb23.7SJKQCFlUlu.cjPC)HA,Ws`el(>k9Zeq)&eR%w6r+iSYRLuBdk[@|'5cY*HW_KUNR!_oQlOaHp:6I4ta2V%![4:>
je&ME:Y_C1J^Cams;xQETzN6(pwnWT:%VWtO#'tM^*pdR'u!253IF833V_q[lLYSXPhE5~w13h%UFha#Mm%'hz2efd=TIJ:cMsQ
I@/#L8<|oc>tL:9/>f7Z?JZ6~gI~oxQ~t%U;q*3qBNY!;=L6J4g?hFV`W6nboS1ilgH?x+chd.N1i&@)Cltr`+d3/=t8pmGn5V4i
eq<LS/E)r+:j!y'b,~NI|Zn=$s|;)'pfn31|JBhZ|)+B<&^L2490<?Qmf2p^H;hk]yObfz:*'#rxj1>k=f@.K%_V[g[h_)5kno.
H&G.BK'E/`uCINHZrgG[03@ei[>*`wo?(6$,*jZeA`rFIR3N^P(krA;%6ZG(2ccA!T`)iS~pZKgzu/q*%TZE?26S/x?f!iz#tfXV
o9dlJbY4uO^ejEF5tM$(2hXWYU1RCsil$]D7?)B_8l,Vy4/V>lCKYsWvH)SG$GOYAs.6+TwP'omx;jM:9b/PF@=^E=XqC$]d_|$
H$6kk9$yPnumR!ooaSp%%1/hG)r@uxA=IMv7<aq$%CupVvoD@0/R`K068VDQAxb$~+;8MUI,xSEwV8VQozy`^Q%I:#g5%p[Lr;M
F<8H$VJiB79_&4*kCK~:mI_Ht!RoP#I(_(T?<_uRP35,pVd`(%`Ff>dLR;0!CDG_cR<^BCLE*Y(]|01dH>;a%OXgD8NG0O/O*39p
uMs~S]Rn|BLUInmS$+LsBDuSzh#!mIGzPnZu`r73LCRD?<4s,'X4tCW:W>9(h4jwIzYNBoJrJE&N3_W_4Vt.[nLSnahQI1*)~RKt
vFMK3O1YvK%Q#Mfe..KEWKTjDC1J?q#u1aCZ`8#d&DK7!b!`!+SfwMB~8w(*NHD4!qm_aK%=2aI8jL&bm`9X=FuI@8.%?H(l`@o
M=OU70np>iw]Q@UDq.H@gS/>]*ya?*Ln2oc)cZ9$J^EKrix!;uo2q~DC$|;iGbIM0Rr+N~%1n'YV@NWq25z130lvZouL|;4(d!8u
5pOb:7HTKGyJE,X=|rN@^rP6h%3906Jx&@D')7YX`0_BC)Q2.+=|!9OJ<p(RyY>%JkIQF2S`%rI?[>*<]QjRm'4NU$^WbsN^#^z
3/H):pnPQ5i>AbhYLW5YJy,|LhY`]rsht6LYQKf%Gns)C]<CY0DIvS~q4@?&y;aYuKD%XK/@U/`>7Q)*E2_keq25<`Ii)dS7fp
Z]>Ku>)L(vTP)H=Mn^Y]S>ZpuC+@LpE?!eeC93;E;mF8q)EOu+REqcHJM!*)CpTEu2H59!n2,hwj_FFI'!~t@rAqM!;|G&)p&#6r
n%EX+(gW_hO81B>BCK7[6wP>qJw,;'M#gx4q7`p<D,l/mE[L?;`2l=Zk6Xg|$vi6kxh@t;YTZkjL=DE9x[v9H$CaqT4<?DtR*FNs
r_sb)ZNZh/|$>*pCsEvvg&~IQj)bUJ>Q>W_?P?VGh[V|WwFvJ#S8MXpbe:=@)u:E`6/NL^Ls^O#dUK:RCY6Xj3AcMTik5v@8ZA(z
m@?gM0>UbLV1wot~'a?]DPC0[CAU(b~K#lb#4XSt[W1?Ce)0ajV>#b]|ON7$IXp6oTahY;Be9]Cgq,62wlVn;):;T2>DXcMw$G
7/,JP+AG+Q&Vx49gD]_GmyRIpo4&Hp[7@T;onvv&!*dn=;zO`yA2x@u*%_AF]R4*HD=viNpJma>zCb4B(DQC`q&,fD#v]2X+4x(s
M$8hGNU|X)!'^yFf.i>IPLjr8y67FaqkQ@#>3HFjApM~aN~lB7@nRE[3U):DjW_&7lP1CJ&$;u?y*jpk4aXUd&t)('Znv(EYk8dS
ouJv/51N>gr2<n^2Jt=w/6dn;0E#g>XVrFF`^by8u69$hG02pHJ?j+5XoSWPKIO:LpC;?O+PZe==a1^yTG'~*FWW@Y'i`*Q+#_
9~[_!ACep&n$k6v]%lHA,=x#Z/?2XW61YOhu=I+|up]/@hHqn(:jVX>8a8]=<x>5wgrg'n`e2du`?Ys&BV.XK2I?$6,1c*fACY1U
yP_M!*#N[UN2`&=y`M6KS:RNp/W8Uy~a./ExX|:NqvYc~f|1|EiZ9w&GsQN98GT6ZYWQv?SB2Bq>2Cx8<9z?Xr|on`lB!*Hkz%St
wf=oixcbwdVTvHL7ZmW+*@#Y:).ss(.eBm;oy94#A$[iw;QbJ1zF*bq]JJn?Pq0%_V(gIZw/j,~`Q.N.cw)qA#fczOnYF]R*(p
1)|!Wn=;GEiuf*NJ;`,C;~1F&2Ms)TvEeExDl7q7n`LitTdcj8vCQW=`H,%hE+^imCM0O7kTp_i$uQN_]/'VEA6z@7tx<xH[#&`'
C1ts4,eYD^RM?=8I#0t`>R:vNETN4'/7J*hxv5YE3?L[;$0]=.m2:l~T_N'$m$,ek<('J`/vmn988%v;xD(TrO*=[&O%?sGpGM
g~'RBlL*F6l'i3+)s39+m!6G:3dj[jL9?2dy:6:c+g@+Vl1=CZ/`Vziu!;=29s6!ql?,C+_ThYG'+q_=9Y_1bYN8Y]^U0gV196&6
q6~oXXU]GgH$jsx]>PnzL4taehZE#mRe!IP[_lb,6LH1g2e^92H3$vF1~LP2wkSQNvsOFBB5e>GWFtk=>Dy&H&*r':1ZQm,rX_NG
NV8n]WBA%>#^n1:59SPEoQeRY0s1:#*0]1(f0H.m?3_/bfFN1eTyD1BxyBV@i'AD=8KEZ2_%qt63U|u&8/$vOc|p[RLfRB65Z
R`_#v]0neNcRs#BRMC*u2#wQqd,Nptw:)zLo#%Nc4GRRz%,cvkm5J[A2oA45j+Ecr0n<<(l|pe*&$,`3;TocARgWICT?n)VLS(^k
FWwKZ'(];/M3_%TS)'svrbjkPL1<~P#fAQzwys!J'nURp6Z)3/:K+g0s5jWloGXYSQnvkdvx]``EPGUGL2crieQ!.n2gJ&`'z/.
d*[kn,?7FkJ;cYXgp%1)OT`EFvZ?pH7XTPw:vq=[CWuB&AMbEF=vsem3;@ceI[$]U8~`ys<@^bqPO1:0X4/3a(~v2=yUEWMT*
h(;`rUl=Y[KmH_DzM?nxNBD]k|F_:S+2FQ^,7hzpe_+<(.Of#86;1_/eR'&K~_[&6R;i5hz)6NVId_>pBgHYK1mbGJHD>W8$iz$'
NE_07%fFfN#gusp0[NGe!Ih]b@P;.:.1,hxku&4^!Pz#]0.D>QadUyU4zOhPFKNE|>h*tRP9gYcUAY;4h2iW&*YfKDQ`&epNTCN
N.PGD^dji2|W.D':W=lKI::%Trtf+Sg01VhalC6n7Ny:Ks0!oazM/P4>lYU(ip*`IBmver9Qhv58t;HLm7%?7oJC;~/koU5Bql,g
n~Us4&3MEX~q?uG:v)1aPAH!g#V#)sSYm>Y=#YmCq'v=fYBa.3O`+F?;~0^zL[DS>:*$]W3,3Ha<;bLF!sa!TyXGK_qW.:hi1;I)
U;)0Hh57AK[rqtYaBzY4bGg|.c7ALz@6LHQ,Dr#l4(n6WC_k|J6qMA=xhmRBiF:cM2&.e[&s]gr<juC)aOR9?PE#15F~d]*!frmE
eDtXg1e>$^+8*U<o@(`/8N>w<U,)pZ2iJ/ds|zPrb2&H:V+CC`pLx=w9UCF3&9QVm5dwg+24Mx1wZtnfuQTpq(Dy+|snl&]cr,ca
UX;6YRul?j8Zwa+8?U6Njf1Dcjf^^y5TY$@5]DuXPH0^oN6d)ua(1I`zhgd=rvRQHZK4Cf,ASoRqaJs>bKXd?@(V(QVmX=w2]W
q&)5/COf,m`Q!.Q#5w]9NI#Lqa+kE'XR8<'&h+f:rIVw947||%JiktFXQdx$|;E6iLJ7^sG^?9nj[r$L?w8+W0p!,Q(CEH+pWvTl
WI+PMi7,R|)PBp@;7N:&/hB[./Z>2l;yUQ<s+0$~!)|pC/unnYrq7s[|J|7j;^c[v%Kc$HZcP];X|WwqPqe`rq!GK^AY/n5C0UL
9+p'5~0YvZxV5Z^5,j_U|>$=W_Y~wSc>;Lsdw<gD7sQlqL?;5YEXCS6HR+,|eGNwmeuiHi!|4;t?ye/UZs7uu',LOyEA&mg9If&8
KLR8,@FZd`LA0B`l,nlf2R!8L,yQ909.ql1xgV,Oc)b[^[Vdq,hQ6:bL*1`7s1?zVpn%@#O+NwT+3:fAJ>B[WE+SR@zw>J#Bx.$&
a>r5*FOm]eXM@|g4.JzJh%Eiw5_#mH1?aZFhm$N1sv/nm6KiUmqq1)dH_Fp24];e/u>[A8zZTz!R=Bh`vL<f#/.MItQ(~YE7]ud%
Ke!G^z]v,y6#f,Z,d4+_2YYR|Iqaos2R4m#(os&z(b[F0Mg4`/x?X|@&jrLq^_bsB8oe=y0#Y*/qLL/fh?!AR!~I6P|)z.!Wkb,[
Ar9V|~e2'jN)10Il.d!gC.,bF;LHwO'[B|_:vz#g4H!#J^kW<<[cUf4:Sv9fVZStBXS73Q<j+)'UOA5u_A=w&WQvzIU`2*4bS>R
h;xD#/siRBJ<:)c/(ms15vr&@wQtn2TjZ'KJ4uC8=D|U[,GL[qr+Es!|&m^6XkP?|>CrHymD:`rMbYW71;bH4>x[Ow3[Fzu]P91+
m97BSa85prpP*'DYAmLprABXoq//=@Dd#BLzPZnyD+4Pqk3>rqP,soJ0LHRwlsrGkXZy!+R$:FMgaE`@Ax&3gMyvImO~#hU0v&O@
y^Rit.4|;(:^X<a&7TKin^)4^&||=FpdjIJ~mVldsb5rHSABd$PC8x/;;XDpys$qW$e7,n`!.Fa5SMTOp>&)m0F=[(mq,g'89cDQ
c/Tna#%$#)HM_/3o_'+@1g<2K[m<l;dO#C^`XGGy(axE_6f*T>#lVh/;?H+rIjT>o~``||]|G@T~*4:ED;*T461(5)1w`9]3c8Y|
T@1VW*0bWng2!g2iP5<uDcAzmo?eP^b!Nh`=)<^fQk3M*::rhti<v)Hwv<(N'uNr*NbUNb<;VMHBSau/(+Yy[[_cP)0V>9wykz&
F.%zQWTN|/)2BD!;D'R:sJk;$2!almD#|g&+=3>(dBf4:H]J%@TST3;CoWHfU`+A,`1|aj(5P@j2ns*kxMn,X?]Fw0&w[`Ygy>P3
PSXg&v@iQO:m.UsyV(62fEbC/,3`izY?$__TsNrmd0n!>&Hp8MylQOe%f:19y~UDrh[WjbsPI<B,9OzQCO?;/C_!p)'S%QDAk>t<
yPJu2<J>v9_E+J>RXjZ?&.@q4;a[8Zk2B57NqcEm`PG%ka;Zp_;[o'AkRC|3obAj/$bC76A%PI)rIXw(Wkm(s$8ZL|]=%xqp9<X?
Z,$sY4d>.@j!9~QwPGzm5H@^PA@aJBMR=J%5_s*h|_9d<F8fK:,YIfS#y7%Bd=ZRTU`qgYn.:]#VR6!.wuCd(e_G&H!An@m(.6.T
3sM+I3[gVd0ME(4y+lP_hJE6)qadg]<l*S&va2^JtTjxqZ;1Nx$Cy*jYBWFQmI?DLqQY#pLctTGb|,_Q>m%;Y2?9HgEnx=c>=qk_
S%0yXXyqcU>53e1_Gm0!Eb&A])UErUIgSU4pAb;cLHolt%5Z(0]5xh#PqkVCxxc']Pt=sI@6/i=kL+|Ljy|+LYWc`q,6PO`hG:5(
pps.t)9X)?XPBF5~jh1cQc8DcGdf<t|%yJ*4+xYvbrV4mQ(aax<6%u@aY66@y~e&;z6;:P'<VW|OA(GSYpubY@uG_]v`#A)|Rg
w(]^].SVx%]&_+i9*.#)EZ1EBL|XY01fgVz0T7'22IEqWaD$`_F7rA4%NEEi|GIk5(ntn!@n].Wd34a0HEY<+]/w@Zy/&V>LV/!X
B:9[o)6f3n+2MIq/1o?95*i;nNiSzB4fDCU~*OKFHJGa1`w5QFA3INWc&0u@X!J6Ue`wXuQ_SMGyd`X,49YA:b#yWp5wj9;PtGi
w[&SQkirF'gZEEX`Z%^99108uJnkD&2m8!:GcJ8_I*8Y!vFa5@io`'~;MCt$de5IK!eR`j6U(8Wp)v|9rIBN@oAlCh:6f0uKqr0U
kF#^aAZY0(Kn?V?Cc#[ClOk|ZK?)WguwZZlVShS`?t=>/TE*SS~~dE0F%NKwjJv<nnlaE9GCfOI<fzi7%$;Tqk=V'`8pio|<lF<
f!d%7.+:Y<d2uu?c8MJIS^P?LBh09::ao6%+sg5e%+Rgdo7U,JvuoPhWG!n,[MOt!kd=%+vEQ|&4ht~$8uR#m'L:E.>(0??$e$y
e|y0MP@l+%i/oeb;!ZhKa`^@/KRnKxegde1T=nWT``j2s8A.yV!a^ltJnX:5j[U15<S^`z`>>'4LIMyB(LtRsz_;#w$Nb5)2C|(
N~b(ZF4b0?vcE71bMj7Gg7QvMqjZA5Tl/aIrpw(5g9h7nnHj/[Vd4/hJQUa1AnCANR1f$Y>%4;u.%dkcKC,:t>Q<e[xw_,ni%1"

end CharName
end Scad
