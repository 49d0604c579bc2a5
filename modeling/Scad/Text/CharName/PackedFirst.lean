/-!
The first quarter of the packed table of names.
-/

namespace Scad
namespace CharName

def packedFirst : String := "
js0|n!ne!9_cguE^?<Q_@N!1v5^t/Mt>;3qWUip>3V)](8PDfXEd[($1HvE_JWHj_qa1AeEN`L,=C8__^3^3.[oJg]Uh7:Ln^qYW
dm>!_Pfi5Qr48n/x9:g9@nNea.^%M`H7zAX<%e@P6rt|WM4n9J]d025=M(Jfa3fN4uQ$=|<vwmt0~[pW09=p&/2s_[faH~McUyBm
jkROY+u`L!5I+i0w^4aRZDW?JCm[JP>Xcjl8xl~M8FQvBEA)TvXL]&+cocIUz)|pC]w@3LgAwYt]guH$UIF=Rf,!/yGJ&mMV8:K
Y%D1Xl:T~x#K!VY%i$Dj~0is8$KPpTrQ.]6v)6zvIwx!5%M>zroG]N$c`~|Aybur~T.Di]4~G,O9uK+nG9+.iycJZEJ!cXjy'
j%~/`,dFL$W:~JpY5K%#VjJ6<$aREnmc=KH:zwBM8b<ZktsNjOA&z+gePw0qg:=qe1mj;gXZ>e/DHvw582xJ~^#bu'K?oY>XJfj
l))]Rp?ksUMJ]@=rm^`&3!+ltcJcQO`bo]UlVoV/:SQC10_s?r?KC3v*AkRbk:5kmlC>g;*RS93ZgG|3lBB|lu=%<s3WiOM0i,_a
WSCs+aeB;|]P<].u$q%yEXOe<;TATRoD^9IFHExZ'`L!Nc+EPs5uHAo~Dk,$%rSWYxN(=vWC!|*V&*WrM>Yp$4xE3f~s_V%BYgzb
4YGUq;o28,tN<O<sxSjVY<Ltc6Kx~,V#T29z0;GtE.C|L,bFX4?=#/a_6#@C:]XAJXm/@F+mTzA>im'qW.Bk*_i`BvC!_&Evod1b
SA;ed[BxL,,EKIX>@IqBw[.J*mRV#Ax&rp>g*D8%HG*OKdj1,8<gv:aL9yG>a/3Q$U'3N8a59P%zr@*&S1XxvutsO:[m>;!6A91v
9,v]pvX>H]dNP:yA((&%)#ko&#f*&huljtVzJkB*hjsC+csYX8MtGa+QnD(0^/EBZv:<8+?Rf]lE[,jfr+L10)V<_QZeOt^7+JC^
R`>g<(u*>v]_tjBp[=Ht*=#Ag_P;~KUPDum',D^!:!^XP*n*#eZwO`)eXz(sbVMi@H>Fl7yZm1|RdCd+*IG`E*>J|5:p|8TocAW~
HN`y!JEQ2c^Y.hY:2&.PDBd,H[p5nw/Wr'.J8_5iGh<A9:qBKbU5o^TZu/SE8WR_cj~*b:7nLgv4fN[.*E:+iI~B,0`~cy$a
F_(.`xLk'$y(L!AdnMWdhjRF3Igz?#N[YqP1jCMl5S5E6n*jFbdU/v*`gX%gs2yo?Z:.5F4qm_(Id0.k^pAI*mhz|G2?|SY_I7o
g+%4pp`Se;6eL2iTJbq&[zJmXZY!,3gPY1[=Q;C_op3GCuZ/na3QP]7ZDk_mF&($v&)O42z)JRGXPat&[NOAfrjOv0V^T|[(?f8+
tOf94'_uLs=jw8&#X!in9i*Dan/s@gCQy.!`,!F)9&gu#=6Vzwve(ypLiuee0L$8t0z?4JcdjuSJZGvt(eU.]XWwuEcmIK3v
D_~,^'xn*ySg^S:GyEM?>QsZI<h0cSvu^(Z+fmZ(ovmkALnZ0XJ6*ZG8^QL$N>,SULmAd06D+*Z.XL/BHcAdX'ZJSuFR]]:dJp>3
f)9>MRmE=h4dOPANW,8/VQo@o2<u.m0]YfYTrk.c6^W=r4bWTWdiT^5(=Mnr|0GHnDN;dVPa]@a)[gU%0*^9GOtD,9DfrXSJ[[=:
FG@:Q[Zwc$H.lY4E]s`$L6;f<if!,8uOUodQ)_Lj,ebSafx`[6c>?0%o(?e>g=nxv0i.R'e]%O7jcutw6tf.nLFA;l:7I,RJdmp8
e=[b@_^#K#d*)4?9M1B0Xso(@mU)&*+q'9P4T,kn(8Jd=Qvo'wL<Dcq^?(?T8VHAeU?oo$@[!za%q>[:soMF(,c`Sz~Zv3%2863S
OaqkJBq)oI:iVN7Jf_o0']B$vusm^zl8@O^]b]e'%QRtQSh;u.SH<F!mzlE[8Q..V9#IZA/=Dh827gwwYw.hg)fC4+Ru|l$?z1yT
5sGmR)`]SD4ELT>zEyg3ZP=E<+AUv`nJ5@T0$gu<B?eyX_KleOW/_n%Q,_y.s<mm;r(Sq:j27ZkmQ(@7,%LR#>+*>)f;7GmE7L
6~>5fY[2LvJNvzWsf!JkiIIr,|OD1OP=@'w|)</!v5.lDNMnmzv>X_pp@YX~RdC^q0^Z$BHU*7|P@,27MGuIba!a]$8JnJek9
p/|;5F>Plt*L_qkhWuSfPac)dLx1exVIh>iE,0,*?lwh||o^?/8Kc5/$Wk:VQZ'a((Uxo;fdh4(HJ!S/TzV[9r18),4D4[P0%+aO
Tv:>+uw6j._8$VTh(yjyOG53v_C|Q|Rr~DFO^(_i;,ZE^dMAG0y399/OCDi'X_$[wj3UG=Lj$!60[r,Xt=f+m!W>,0LT8%a+FhU<
OGW^J%M6?`v_:tVH.eU50NsfUUc6KlBIc3eE9_+H_]?B+](.##ZVvt+yc:s`;)gf1YcF4&tT7vR6U(LExf+<3*l_bTg4NT%gGkE<
i5irbQHLl>R(>n|5n#Wz]U+v>4~?7DtQ]E|@ANq2o;;3Ja9Q8ph~01$BO&~a(Uj,3kba_Pb//9Bi99F+KRpF[?6Y$aHcX)k7qai
c|zjkM@O8g^b>1Xrz6oZt?(og)+Li<5*JVokC2i2vqav~R>k'kipZadw;Xg_99Gk>Ct`,IL,))SEzPpoXcQakJ33h++'az9+hTdo
q[HX_WX(+e#BTpX7jSZy0&85v@x+*Ar[TV4qP]ImX'CZ5J$w&l380[fiFqEg*v>u54CUE(JF>eSCA5N[5R&J/*dLWHeMz;*R*
4#*:vfoRG@48di,SoW~%d#s&V~Z?&p'_upFwECY:aKZ>ra1zrk$E>;Vv]:8;n5pnkzs?$Z$|['D_j7:pw)y!@?lq:pZz&6uj$T(?
8`wgY&A2Xy9O%AhkiLvkR$NiqCxN9Jn7D5_C3x3I68ec8oXa)R@I5qd2EoS#oxEL0mGr!MXqim@h~~kSN,;0v]<](c?x6^CEaSQv
N'+yn(v+o^%4iVUD&`9GC2&wooz)a8A[=@k8(oM;#:6r5+qHWr%g4a'a|9:SEle[s+wH@$Cj/U.6u5GhWq0(E/D('6^.xf8bE_8E
N8dwlukTp4r+grin2=s%s7)eq$hHw=`Po*iOCc_!6`VAE*&oi|e+bk|,U#/ANE(<*FvgXpScK(OmsZke7M%#@t2)5]VfNovdy^?z
R39^d0Y@8fMNc^bZK2g#4U3&HI'KYBim#sPhP7z83g|[9Ms6*z0Xvck|?~UuuS90SH_fb.9/hb.7VSl6GdjiqF[T>K14p^>|_=Ao
Iy&~E*7GZ0X:Vx@H;ZxjCBH*'@[jo=$@f_t1d9,Tw)3uHwA2j]*yq3i:#xpx[3N'T)1dY<WtZydouhec'^^3_Aj_n8(p<*xf/#ea
31pv&`IHiXNERs8r;?;w(3cnka[.^]jV&QQ|2W6ao%Ohh7e?Jy<crq_?rD+t]M3eJ=EDT*9~Zg#&hFC;>F]icE*Muc_<L`/>L<l.
Q@K(,qphp5z<s5g[EgwKo,'Hf9`9n7(/v%kIgS3ii[4ZH$Jsz'8p=3X1&?8v7tS[enf~QQva(K[L*yl<zP*,;o^Dh;7*e%L`'kz%
Ii#*k'MR[h/+N&;f@$W/j1G](UA_nQkxkAP)_ot#MV/jxsCC!ZmRnX9,1Qcqz;5vx|lSLc1#_#Bzq0W(t/LYX;q:_[dTc;|Svxz.
GoaV[YVtSPC_@|ogo,`3HV4fVs<]sX~vsIW@WgRp+Wd+Ycyxtp8)Wq9ULB:i(p?J#*T<hlBW>>s</|7Txlm<;0X|,0lp33B(GQ$,
0RY'i:u$4rHwS<$xJvcqg:Q*;?ZGCinf^_Pm5VDS!NPz`4~9B9/E`MsW;_P3H@!5!:HB`)CMVhp(y:Jt`I%v/AA:)]:!zu(.E@38
NAKC99^Em%9K;/wy^_Gp]rno3KUa*`fpOa4fv7I8LL^pW31h]WxPrQd.]r_e:vLDl_vgVs3HXX=r:dL;H'F:@%W4e3PzMSSdFfGG
RShSKx*w*9U`<$)[qfpE2&RX9EM.^VHsLI7Ic1p!+kapP<v6`qnn]ZDGSNvjcY`+yYdGdhb>I8DFrK(_&Ar2u3D@l,h%~MR7my^(
EN<is#7L_!QWe2VI~:hvS`Ov5Tn=.mG9)/=,v;,x2q(h)&1[JRBIgn/JTzv=bhrb5iH%Ma=P,G'KLR%eMnc>~6wcjfk;p]0Ki[J*
Vz:yI4iFifN?=?EYsM9Z?@1yOr71v.Z#KEg0;4BbY;lfCuZ597!<RjlW~Sf0BS8Ml(Pm;O5@J3@j=q!mtr;6P?CA)U;9dn+d6Qi
Z*,pS!^+QHgfw$W'mcn.@QE8FB/uTs:0U/*Md70>_IY?hF#TPuDQ+tU2%jA9n?^q_v,zxu/[0xlCqFaVlM$|r(2i1l1W<iN)u'|8
ijs6m9ncKk3Tla7OMpMgfharVn;Vp]ec>kv19Zog9R#!yos('P*=ajSow4%RDYZB>)Rb0CT.DJ8fHY|:@moy:i)[tX#f%6/$?7
D:=+<#zFCgPlpL@W|Wq!1,xD5Tk5U(Yf[OKy&DILYQ^xu4%|=Le_:&FhrqEAm3=f4,v2:4<9#a?dhPF,pf;^;3;7gO9z3s;><!H)
7X,/(zl|lUco,5|T5+w>ej*[9p9iG^]zTg5m%[`OIG_kB9g~~II@5Ll<t1y%u5S,<QgRC,4Ox/P#QL1JK<.BlPum'4(lc&DS.sp
4!a3:NP2)b?Ba<5`y@mAZl?ik_?(^Xb^.V`G0.#Q1qfQJxX=F']0rOT%,)g+bAx,i*$(J%h@FDR>X~EFvSAb6+ZVd#NN~7*4Jik_
Qg2NPSVIthkJQo%R6R`0BV|QPVtHn]4f@wp*T%PKK9u!kUpN)<|&EpODPbo(^ej~.e/w#'^CIY$=xr1AHTYvcDIui)DQg<l]*m8'
i&ARJRY.y@g9LwwY=:^#,.4ui^D~S8cH,Atu~A:!vFW2$z[26e|y(IQ(>V;);QmR2b9o5`lO<Z`7p9GKd?[N=eQj*4?blw;<;Ku
X<(Bw:;J?>g>h!O+wqWK$j%C(GK3|ij^XCFWN^rIa~ap93^eD>3msoIW4=KadlbomXBe!#(`<MjNU.X<h?en0Qi4fP9Rm0lf:F/N
Jv/ikB*k@a16c[:a1IW1][`AZ~2CLU%]=kiZ2j)ZZl%xRl#5]Xr|<G*huKMvtd.=&m`F|5q!uz'jyATSZVSs9ZchJNGhQ/'X/'DK
guPxUOjBU:2II`0oOA^gO`rMqQ~mdmENnJ;w98eXsX!3ftt`]de49BngBgZy:|)9X`o9khu7bw[HtVmJg*H:*qo%=E::KQ0<Om5q
JyC~s;%s]#v|Tkr@.pfF/BE7|%D:UlnJ$1sA^u!~*a=N%TryudN*a5fWh_7Tz~jXA&W:?ls<Hal`c5M=[k.*lMygfLBUu~2fVcXT
bnC5]gHH$_2i)lPNmcS(6O`CZh;=f*&/p3;eqk:2[.PjQg62%v&*@Pd/<CxdL=Qv1!`ZCIvDWxRF5Fkm=^0@koi*3Vc!Z7)Ksxx,
5[$oCinIeyk!Fk[zwI1WhcTA_nw5ZiKZ.><j_ttekE>p#Jhx`aV.?me93~p|&h%GFoL+vTm!B3YNyyFZubgb9&`oN~%)QE)`:)b3
5DRunSp,lGkI_iWh__]BAZ>_znf)&;7No4Ujos?bv3TOvg;a>MQ$r!Q9G`!4/)7YTk)C7L|9d[m:[*;7R4+<kQ!cM](.?Re548$!
D(!/Cv,:U&gCo`sy59e/gbnYX;IZ&T6UOo<'cr?<~]FYJ/m7._^e<>J^^.$^<wFz,3d2AAeJ=Jd8..]X2tMhi_vOc5*|^5T_d24'
0r0rUzA0zbZ>G9hFQm'>Q#zA]PRh'q0y!>Bs3zt`^&nYg)+cvds!5AU?_4USO^^aUfLzCkz;tH>pl^As#Od6b?zNrghF<htQ^jv9
L?w0Y'26dx)4S.KK965Imz#,Zd|_'tuc#Um:=+lB%<VkDkgwAcl|([l[Er]$tb`AAU9!ZgVg`K~t%5(+6~QLJH<c_QLqrf4YAa/=
7D14m9(<bu3;s6h04V(K7,Y0hS@wfwfvZadQS##MGF5Oqy[:!`:0^kgqC!Gpt+hZ+,rh:TTAxPoBhnT@1^a.Cu98C6^YFY.WT:]s
H717/@X%?4/.tRhEI0rZhytUcpPaEhpL6bI#Vsi&S[H+o8b,+H=7B<SHL]JLlG5YuICM0u9iaHrJVyfr[y]zK1]EEMQSOK*n:U
X'%PHVJeVG'AbdDe)T|RdRO6^aKI:p@M5n:(S!.=!@[`x/@b5p2o!*+R3~4&eleUO]~2=8oM=Vn=zn?R5MsMKL,$Y>1POu1WX>ak
mF'eEVeaI`sH8PhO*vYm>=6OmOR2/]B;D=r_&5W?L<W%&ucOE4/T7n3y|c~aU&CTG!aJz&VhaN.c7e!`8D=mYonMGamGxetNtnQ
D,l!:LeuOaOvl|/.~fFoxz2]?=unwLqTtUEAOCis=)w[:Ei1g:*<0*~RxKKuzZ^%U1SS#5;6'te_Uk.H|CQxkKROL9/l''Tqk>a+
oU5k0QEa4ZxFvXzBfV%;7a`S(]Q'pWc43W.^X2ucYq/%=bT]?<TNbN|,RIDUnsg0Kf7^P~?$l$_3tzq74hLv6J.eqw|[L=i9xNyV
I@N7QQY.k&&daa9&5Sld&B>rBJBTk'=]0hkniM1mkmHgMT;We$uuvF4|bSZ'[4_[ZfbbG[6XGDOq5p1HWY6v:g|YXY[smk<~z(_z
N!Nb0V#OC**0j~ZQPQcZlQwJd3q#(qf>MbE=[Ob0D(e)i3JuPoQk9GX3QzL0p1~1(=tF(zM^<+@n&48g>2_p2gG]l?6QJAS]xiy>
YvhuKZS#tepvrq7oI79,h]/I[3)^V>@ERz:?DTaE.>Wf24g8iIQwwi^>'kdjV4?JM~[iW$mgo:s>bZl|mL8^x^_#!u:Q>'N<&7~y
ni6E,Dh/XiLGcRR,FSh2p)9fjfo+vQd=&iQw4mEM&Mf(PwTY>XUNfi#a'E*7$goOU?^XZy3U3HD+.3MpP)]&_oT>tW+U+81nhrtS
S$c*jXeI^1x>.D3di0[fib'JpB_ODp_Q(PzX820Xb[AIkQTIyz],_7k|hkZb!4,pgf$b51zns3[3dT4mSqJ+buM;@~J98b)g5Vz>
ZvkzMb[1]WU0P&+~>seZ$+*qyQ.7$fm]!4:AcNose0Ldf+)txF,Qxcu%wk5SO8(1,Bu?EL,yfy2OAH~!]~U8sB2`|NumA0f6
3?,|.N(Kf*mGx6!6Mmu@[Pi,`Mfr9zn~8'+2flHNZd_nP0CV'+PT$XDG/elRl~UgU_#,F9NCLD~*>OU3!;Td6pHZXp|Qk>HN90Oo
kW>t_G8v<?+=6gSh9~dz#.Av'2To!|./*5OWVbx'mDOMSW[uRqQMJX_g4?ZLV<q^v8=m7Fn_N9~8SBl*6!`i[=B82NI2M6JCA*EB
V'3[*(~>E&eS>+Xez@e1dpJ;?so<W)kjv9tYh8YKq<mKr3dK@bGaIrq:^y5>E)`@k~a<X/pcS`=sCZy_rvc]ztfn6SSbw97#
I`:*/8hQ~J[AgkGD)d57R||]9y,^%DqX[i]2.[4gGinE;5'#kH*+,oz6[w0sJG5?JxdYUaqT'NnqR3iBXA%0]k2R$50+]G&v8zA
G!DN~X/!=sTgX&GTt)YJ1=~L,VOV;[taet(M4H<qM>;I0y^v7)Rjg5:i:CApb/$hcHsoai'0wC4.d0naq.%q(yM?dc4~AAmb;ZiX
3$im1I]9P(!>]7MmQv^~^HvC%3Mt0Grp1Mnw>AL19;zWtBD9B=YVv_TxK*yX^W.Ryw6z5%,6)!J4~&kk+waQ1&UR+V$gS*zdAW)
L[$,kA3~Kyi6kH|LymSq[hMFpLO:7/7wa_j*@0>.3m_/Zv_'UBnt1EqyOQpYOF%ExE,'v:~5.%2=J_fZjIAJ[<`v/5[?0TJ)iA[
f;nlpJ~a3fpzdr9zKO9EC@E0arcibTT)S0oAAd;%'rWL;giSAL:b,v5q:RhLq*/`wfHR2r[[FgFnQig@yqX`f`6`zkv$K;I8tRv#
Gg.l);`!Del^'7RPetjHBN,fp6lX*9QuAO22j;NwH~&yC~nv=pu&0rGtTebclt:3r&H[EcP6@o:]+(accKw+d#:|/(|UzFdBuhmo
Oo]Nxr#CnLaA<DG#;5CanlJ;jw|FxBRzqS,7c67cH7h9#.RDc'@AYwy;f]|`[p~4,~le@(E.r^>9f,[@_U8YAj#V_bFRupG<psd
S]>rg[HypS4^`]^]7M0@5;SQ(muvt5CQ/gAJm#+WuaMb.>4H7KVe7h=RPv6bFqKhcC4FG+lfrXcXnq',`tNy3$i4BtzS0.af?[yp
9?Z;fbP?^FqMRXT)iw4?]NIOWQ)gU1F`)?H]sk85L%c^|(^k6SHYdH`tOd|K:Tf0K1|U@@ye=%qWXB.HMWnco4W*rjB>ZkmF4SIn
wIg2~s2.[7MuMO<p7_9Kq=U(8rpXiUjL%57*:;~7T*L.p>F=ZZXRxK412erYcG89NoJy]JV+Rg)`q+ypd(EW9hb*31*`|66#.3'R
Sk.wG0>DhH5yf<s`;$#n4#Ba`9YQ:n~IfLuY;FkN7~tK7_!LZM3`LED!6I<NaBv]+.C7lOU^9lUOo|vXGB!tq[Wq$0`qz,`BXUt
8:I_?7W2IQHB3Qp>p5x'8=W:')vMU52aL$=x`>93&&5m7V0~CUI<Y!Cj;<m(Y'$&D_r)_L.bucXf0jR5tAx:r?<4mXKz@h.[leh
x*U/_,9^~d9xj8t28DZ@sE<^hyGal8;Vulj:`L_86aeLN5RqK]jMilYX>0.,i6[W>A5unQPt!ynPXs,$xD1L?2RWiSnZuD_9;hBW
e,:Dt;x?OTXylDo.AX?KXp7Z%O~9QB`I/+32Enu%(9c69>4L.d4@J>4VB#:+lW9W~]B*j~R4ys~A'qyVMLkYG/dDA9CK!'@<IZz8
DXEhcn0:lB[WITgy!Q,!%Z_1[7E7:g:HE,G.DD)u3a$ubDBI:O|x)Jl*iNUn:8u1<h|4bXvrTCDt^wr'jIKFpoyoGk@%GzB5v0jr
ss;+,+PTSas2^p~V`xTR@F1>pC:eXSuec]mP;5PhWVnEgV~PG`(lNqoySoUWq9k&jX1'Kn%aR1`Q3SO:kA'VF4LH!MoE:J;Bk5qe
02t`GduKS!MTXo[8+&tPz=KfGrt*8dW&nk7v1pu*<.k`)|2Yw0<Xz&sGWmWg.3YCc.rgg@zDI_zbjba3W*nkF*s)8r?U=dHfvg
N^`d6'1f)rrA<:s%;IaI.xum$vKhU4#nmv*cQv)qd5;Rrz)`XxtCRU[UX|kOL%=(e4.dtEgE4(^&?)oDN,:B35,N%AS%<'k#OjQd
m.f8Y2]0|5ozi8JLK'JG.U*ka/QaYUQAGUc<?W8ca2e;bchAx.ye7*1xi.4Eo@_.w(fa9>Hbof'D+tZj/ytsbX[.mk?Eyc|(YOc
i)L8;D#30~ZdFHArx<`@0YVSJ&)TdEj45c6<qv6+ZLq:J0VxFf!tI2Mu7'U*i.|tWt@hUJPPyP74y]/L!c@[0u1eo]Qxe[|^#'vb
pel(mM)0DdmQ0$j9?Ng]!_'PMb^1(j,yuup!(FdF+EXpXrJc!_HIo/aC_b69J*y?c(X8)PO<qhZxYf]~g~VMb6J81!>I^<&H2krc
g|Bza:gFJ]ZJVUJM/~hZ.#Uzy07IMcB,S!gEKgt?@`<ft8<mPszu,N:/HT2)?Tymh,d]=u%C1>/L.Q3+ps!gL67?]QAiGv3pJGjc
hX=_tCjK4z^OYt4zJJ9KgHSUVO%TvE3VL.6J<LxST>,M#vB;kw|KS9~tiY^_@ua$Rb`Bk+,!aR8DLS`Dscs:V&V)QKm'Oi|A:)%*
t9C<e`&@Yi)u44ulU0F#]uGMjEJsq`FdZ,4?g^XPj_=W1TdxdY3hEw;[n3mP[>c39ccod<eqwTY`Q3$aH:VHaRK/PZ+IY8RY|:3n
f.9t>vcf'0T)seS5iYn|B5.QhW;5t_kPZd|hY7Wt8[#M$1;EhHQWq'aGWie,YaR_/:/:02w/3U*Q7p/$4bCRA)Ptqxz#:2AwH6P
S^E/7*ii1/e=sZzDTbZ*`Nd>x56MRO4%QbROOaDTKeu,'?3#/p0qE4<t@WP=U/2J1$ORW|#3=$PXm=~VtBLixHYsCk=jFc~DZG]T
f#E,)a[i]D:O6ia)))ik%q$&0AY~!3:X~mK[Y#rjwNvD,&tkm=MPF/e3lYlnJDVQNbxnBRtY1h0V#Pj]q2Ccp7t,3*!sw&91N._
N#4!zGRQUhRH#5Zj$FFtWp.JFX4N@U#|Y'R<7p~Z/xA+7@h7h5rko]2|yXc<;^I_y.XFYL9z!?^_$A^~Cq^`V~+_@rKO@)I4t*<6
J]gWHa@2D&#81eMcZ1lz1Qx;G`pA;8n.JA1sk=[6J6A&aV?f]qzifWMUog*75N$4hnS~J+a]*2^WswTm/0Qj)2.:9LePk^i>MOY<
If%uJWRO=gLGZQBYP);IE?y1FVmGb:X~/kq*H[@&xr4X2W#Y.G.pWLb'F#qaQ'?4XO3U3.[_mv(2W5.ne%h*@j,l1/Z|@h.tE@go
o9|$WrMAoT+wu=%LI_KMPE3hmcH%>NSAdx*.;2rC)M67_)]k<JVyqRkN5Ux1UM@%6n2QPd93A$%I,Bhw|gKV(ofdeAgNyGac@+MS
kIm2UUc95VP8Mm#uj8^gk@vBR8@]0%Dysa0g00)v*HR<bLi'a#mK,SEIP.p70=S2`=:;R(iX]WxYNeE(lO,7K(YIknqX1aMrs4^
2:;v1'mZH/?7?@pH`~%^!#.yq<UCq|aJv[4Htr/<8%ys1Z+q0lCW:I3KVW%m`1pfCZ&#=Jm~_)3rNBJuJs3ZA!(x8X)~oa5&]MUX
l#?07E)d9*r!'2SPjj!!ofZe0Y&6rR&ud=aRoz8(DYgLp|)TV[#euV];MZD8!;OO/Hu6'A]?8&rfk4Xvcq7FZ/|o7lRsZXoF'n7H
qGwn;]]kE:ncZAF?^.g1<F+9DPbBjnV#+r#|Y']i#3yzUZq)oUjcV#OxO#U9/kl0o/^u2Bf&0MH7j:2s,P.>ee*#OsXP]Xki?J:y
KX`Igrz#S<?fR$T'#I|?(puM1E[wL8@_MQ823G4+HfMh5aL:bJj?;t>gQ_UZ,*vd,I8k%izWE9ZUzdap`16!6L=2btsaKzhISf(
C]X%:H%I[3c'Ro@rG>>q&5?L,T+=HwqqCuI#93KvB@D_Od[:GccInZIbR8Sf^I:[MHDDWct3x%_yGHn)JaqMQo&@wWVh/|NtHIGA
O'+TUT*^z#p9r26MKTaWFU@X8d|Z/TY.;)|DML*uWgw#T1yo>2R1$mHMt=/@sPUnOeCcyCFz,Ue*UdAtaqHG_6Sn1NEw@+Z5K.M
O*'6egauW9KxKYx;qH[gG3|Pki,|xh52rV!/xLa`H)Pda4p~^XUY8wpJF^`xo1hed/L<E1=LCS^!d2(G7Odz?K~[G%R>YsLOr
g$=]+[hPE^3t;^c]~7ox~.2CT|M+/8+2)!$*BvS[k2F5r>Ot`^gtbV>|_tT%btH3Gm5P)Q_Qi~[x$_^13iD#lhPSH)l#O~81KCM
i$rcjoO6KxsR^KR,G3mKY3;@mvEb9U/VfHq[X3O)l>toyg.9~npGA6]L`UN:q,wASkFv$x7t)Mu3XtN!)X0=iNd5wz6pRb'ak&KN
5/[J1Y?'[:&D>D=z!zH=|w3|7M,5gR|Y)0*mP%jx2DgL5TvrwA^,nk!awxviy'8Ut3rZ(D3yyWw<<>,`F!DR!Zt8=kK,K#HSt[&%
vdf:6[bxc15Qv@*EnyE$/1QPq,'URK$S8,0F(l3]7QWeRTT5=Yi`L)Y$CkdefWerf#vUiBP5_'!`Q.(Pf'Uih|)b4Oui+#1/!$KZ
ZJ<V&%FfQOhz8L(|yt'o<'s[%H1qPF|1g>`Ww+'tjh)`C|,f_6vK%f&=qgf7,Z>qL8>X5=O,x?3J(U>B?:zP?kUx(9#0X;/D931!
hg3C4z;Qdu.C8em2$FW;;Neq4CWAmp79,2f~pDq+.6zM[Zrnxhjur,5KKOxkreErlt::BVCiwT5LxHLa|Z9jvJPOit~j1nYk'F
2|!EhU7=t00JBw'f6]&<g$3BhHYLg|2|lCkm+:+Ld+oGBXt~MeJ$fwX7@@+,SwrzKe%CigdqCd,z33U68N,5;eU&iw3B8=XR81j+
YhT`Rz9G;5@Fng/7)PxCynOhM~f94tg;Wr'PbKplGm*$w`*^y(X#PYIIm0@a;Tuu7|P'(X1GkUN,iOtn7+[*egB8(&H?I,00f8~P
I,B+r5Ev@deIQ4//Jg7hnqe)av<^v~PFZ1qw_4!lyX_Ey<(5=8oak~i#>&BD=0x]yZ%sXd&FrHMl+AkP[^v),oQN*/Gxt$ve_a
G+:PDbC_rZ]55[7]6U6b&95TElyV6+vLgBWKN1]&KS1wuMn,KSDSPm=YAMW)u!h.g~qxQUjXe3!vB<#R<?1]KLqc=rj&mt=_A,
X!'U!av+T,Tv&N>o>B^TJY[x4aj%rGn^bLKe2mn;#<@1<d;mO6)sPG=/Z%)hiHel'v(CXr[<Bk_rU+]:E5zy_d))Kpty>b$]q~r
c^MYmu(CC^nI?1FdR>7.(jTD_@c=a^$r7EqKm!Jyh</i,fc3%5d=0xX(K%=Jf?FXQe1L3=n^Fx^WOQUX_D6!*<4.QrQhRR(hWT(k
rI6m30TF_`DmS+3eg!Lqs5]p/~UYdz&_1*V;<|vwPU#xmAC&~ghdpkO'T1_lZ._?WDJX*[nl/G8X,bNq32!thbL;m'8GS(NO7Tg
W`JNj+uWF/+NK':dwSlQTSlCL)4bL=8zWbE]`O#xV(DBwb.sBU~,2>Y~c1y`dg.@+2JF|OCbIhAMbJ~.0L<O;(]L`ZdA>9.1+PYH
7RZi?i<<$^&WC,ieiRQQvuhEL[[XqdTMm>M3H)5enH:*U3OTR3l9,C*Th*voTjV?!pN8DIfi;!GS9Kg4AJdPxv<Ry=Uqjw%3f3n
N@v36AjurcbPYv==j)>+h|AE'1t4%5kh0w?zS0eCzof>nHgj]a7!G%Bm(k!iHBWLw1A%*.2l92[&I.f~HmB?>)rS>353okfwDQ1
U[Wm?.JOIhySd^~gb[tjN~2&BzYG;y5q@!%lYiU[$Tt[>ftF?KY4^['#(F.+s_Hd(AH'YWyRA[<1CcXZ.Vz(G20Owq2Jy?T9|wr!
p0GAOJD4IcML>|VRXtC~^`d$pXZXlvh_v5(TJxU_@u)MLM[5#Ys`xi*+kIrOzjJG/mx7xSt3@Fp_sS@JkI^g&E|$93@>6,!!MGuH
Ahp#%^B0`^v`_dhKJB8^:l8_Fzn6:@Qme=g2e,Px1WSab.MR>U',%~7(s582Eevb5[xjlNy95;Tw$?9Ih:o`^+o.`B5ZC]96s19
w,lJ$w%y3NkF4t_HroJR(^U~oV)jyHxj!Kd$&N|iKee%N'TE;c/NQg*?F2Gdm~OL4mlX?.H!eh3)sMl$:]#B0Rb3anCR</+kw+v
Y|iFjr1MOEi]gxX+,W7pTDYlFuM83_s@3(xs|!DAsyd741yU0:%H>phN%[)K1h)&9U!gZ0EFb3z._r2wcHq@xizsL#lwG_z.fIXp
za=A$To15,+2^rObm9UGOcM#7!dd~wR]+M_x)4?PQ?ATFPR|qPv7Lq]Hz>ZSP`,8Od#d5Az)Xr+^0rX,N]Z37>5P@~L_|*pJ!0
e.;rDBD2F(,zqel[!Yn[n_j[I9|BDge>f(Z^05xV8.>``<5E'J@dM#U0FVL8^Q|lhld&fLz@AbC1jN3=vR2(5+=TgbO];@qw(uCc
xin4`xavYm$%0sU^Vh@=hjxv.sM9A+)=y8v&]M,nobOkPCi[T?XG&7eGi8EU[V>C*Iu`[E(.UC;cQ'<Lj*c2!?tl#tPYl+)]ZQNJ
NO4o&ZqZj:T$Qw:odv+@FImSc@v!/=eR9e'zugb'Ow=J:nylalGqM&<;IK5Qv$I1Kbb=[hgn#0&)xd69O5Ge]h.xMz6C=k<.q%P[
74Y*v|IDHb%.z.he;pGk!ikhF'QS;<p(b=&t;()lxCYOb5T+[GWw2!tI>o()k#!%QW7Q0b%&1+|'9;)<ws*M%E5Y;|uz7eb39Xy
B,O(_954'.jsGEIMD.>3MM6i+~m3<%'O?$Zo<_FPem$:*Hpv1A6dEOMz$[unBPVmuYsE|1pcJkB[1o=7)!_EDNV6~N/;v(I?mO<P
KA9U7ABKY':&uhIocvjr.b9wQ0L<?;uyHjZ?;u%ueu`5uG0p6C[%mrw2iO@*bdpKIB*QX4#7HZ^@*%ZEjPeZ5dl~jg_~9:4'pD=_
vGm?y>cis4x(`[mc!io'T_x~[pCOrV~.G'x>ZEK+7XO8>/CEc>lw)B9bWdtZ?8.5n8tD8u=RJMVs8VU'@k[)_DtKf1Pu|jn?F#,F
li7yR5d'3*x7bxp(wg~Po;@veVp(71[4Dg,Ql1#8EGWjv]kM63<Cm|qX9;;s@z=bVTKmHYn/PVIkXr[,gIEisznU!.H*EuT_=zP
M^.aX:*2i30n7i?el<t'tXzL5]Im8uKO'o?5oqNh#:G`+BFvB'7VxviW2y$n.6ta@o5+2VV+nOPRahdKts?yH=#hlg!$_WaN|y%
N,kF=U1@WA>zW;MiB0oR.t*kDL_gyMAIf]C/t:=i*.3wBpvJw?Hbj1`#uEvKGYe$_pGV`@~L2ByxN4pcI]t65wZqgIDikE2~TrPh
Abu;Ig/tu=Zm>rcGF+8o4eCF4%=Oe5fc9c1<:CAMW8tuYD9@a5';d/yQ)bGpx*]Jc[JT'AbLt8*y0cXlr<[o#<PQ>PTU9v39,;*R
ASIVwaqu|ZouKYBXG`?mg16`xnTwnm39j6WFkZ|5c]/eKlO_1=KcB>G]Wlk%Jh1Qd4>]G7C|_e>&d.c@cs.P@sw=^YE8W[nXT!H
V@9b`bUvDAm5(S0$$b<D+JQp,#V=pS@`G@COk=*MvzQE^df4Q7h]86U7Ycb|(S+4xjK[X+TOTl*X2&8*a0p;]h5T,Y5Un2c|^x[4
Qp#]Z!|f+a?pjqm41T;TT^4_hm|gd*7/7dzC9ck5nD='BxlOPEv_:3kZ!qKa'@NeN>Tt<qk~I4oK#eN7[p*[F:mS~9RK_eRtqK]
A%h_=s_8`:@eY=&W,KM[euW^DX9[!W?$gy/Z<4S`+Wabww:9%=w(IZp~isAR|ZZ_9?YaMyf0!8$75?k2*ZDvO/YD+c[y+K!2Gc4H
qW7b9/vud8~bZg8GvwaNJw'8|B/P[ErJ5e`y]D=mGA0e9yAb:XE1n/u=^yrLIM4RCVEUgnBt9Zy)p@5Rm+,I5_3%=TO:m0s9>>ey
U^wVI`1fJ&=.g)]P+%9CB__*DpffD'>$jhr0AdfzD9!CdoB]F4x!nvl)3X,D|+DY%4Tq:~X;~A&<ehdNj5kD$W[?m5F^InbLdata
KQiUseCxr458_27!^lN;E_`&m[3+&>C2c3s~dk7~[)v.4r4KeAgp$H?@!xK6mkjIsNG!t0.KW!Gbh1Jyc.`3`h.8%%aRF?EI|8Q
j/&)%0Ykl9>FT@Hxy*1*l8pI8t1RzOL4FOSX3)]Ot*vO#>^&5h1Jrv_dl<tS[xEfb:jYi^:SaKRH%'V(#kpvpeSfC%i~u_<AkMW;
TTxp_wHQFa.8P<$x65^,,Wd5(h0'l`7D;nH?r(y4b7KIujfcj$BQ3[5RbYsJ+T$pU/tP9jc2Rr*2~>I./zS2w)vriy[i|x.H_&#K
D<3kOXQui~zJXklP(&vqi5d$c0?E:uu#u*FC;k8d_DvdB#$oDwx17qy`nh]&KI,</b;GQekss%yp`@(qq.]~JE]DW'~^M+jEiCl
A=qJf`2uIcTP<plY3=^ZwjQkK;]UP$hJ'h/003Zd6jM<RwJ#G^aCcBhE$/9$lTmjM$7P5]H6=wJ4YqFw2OIDWY4LQjb2NLX9p7bE
A<1@GzRi8e$gc/3AG<MUHXI<ndR/k|fnEK6,?@:8n|pFAZ[IzoOM4*FNf9wWOmG@r,x?[s&@bvtO!T28pW3=F^hToxxm5Q;^U3*
U]tNnai?<E!A%R00O_s2`%UBj2*s3NN:'ZAx'WR9B?gx3l#6'XPM$;*+Gke~%3olZ2|94*7VLIKe=iJcAIV`?6@2S/5_3BpX81G
d^`!cMYH6rxdawy;4M^=~C6%,Sc!H?LF]V7C/XMgZ14s,A~J;,DLGW(BlCg(h0sWQdyp:fdqBNktNhk:x&SQ@b]Yt4KzjD&/nVI?
C/ZJ6z07lhEMhi>)n&OmTkTfbh4,03I$M[(IFAeN&PaALgFlG.M/&*^'5LTadzCbg8OU$>lc,(_EEt'>pkf$gBIG9K8@*.V]f.H
e/u~!gG^#|Wm[CX5n~ts(EGUxx6h+>'p>^Giy8NEeU*DAP^7Fc;kCM'39olv0f~#NNK~6IcU)6x?aBhO?kz@p9jvQ,vs!mB9'
p`<@e6[tICB!|QTvqJoc75v/5uH2FoPx1AM?+@(v!:1Xc9kv@<6IY#8HoQ]s1JG30HaUYXnTHXFFJ]JLv`kam>Bo(~CF9+:n`|l@
j*rta*f+03PD((i%ufC&^8E8l10LQ]WC4[vt6qDDFp]~!AD%Lb:JAy$T2rIu&fP#5l6zX7Me_i;F!s^N0GaOV8Y~&T>2jYC'S+RI
H+*zU/U&U0~NpRqG|e6xf8~JR<'bWhkK2IYU%z`|P'LD<k>eg3~Vbx)((e_]WHW[xm`TU3=Wq,jxZu$l(8OS!tIiwlm8!UoE*f9=
6AP.@N].==%[,dg~!p2I(VEv?YcX~w#'zLCUB)RZ3B_vo,tHlh=uDIN7t$R]I#K%|WETzjPKw(.~'vD9AR4HR.#M+N.]X|UOHepe
G:A6~U)ne%9!o,hI]9d`>dpBf!uuC2N!X%YZTYSU~<UOAwJZU+4a:_8Jow2=9ko3M*dbl.~.'.Jr^y?jec[BI96(A8M6N$XM3yd%
S|b>E&_wVY5IgovxNS+XePelc>.TndEko!>?:3i=X!BFAc<)t8%(B,*bxw%XPvefn4o*l.MK~5hp[Z*U4^&$U#+4M'_><!ri|f
s?~mkT.ga;2?m^@km_ONyIMn:Z%NZSehu#*cK#~9izxd+zCy6Hd?~@F0vxpmX%j@>ouU)md8hrr`nu83XZIS.kg:f_dxDRJmYO^s
QAHN|w[uH_/qFzi=P,vs_IDMo%IQtE*v,%Tc;roX*3O!#6,qfT;YYM`F3@y|2+v>D!+?)+<YA;NezwY56hYi^)aw3ixfI*0I4(sL
TGW_c<oZ($&z,45AjI_D?BAL+.]'VT#2slFVy!v$!%=R'A(XgV:s^^hSJUrhIY.>DKAf_?dy1PP]=)k:.^>umrWe5Wf>'~gk;`m
q$D2A78dp>B>Zq7Aa9lcPkSa%?P`1|bg?nA`dK]y0.h6/$8I4a!]o0>ZCuO(:^',N]8ZdzFx0nGY6`rIJ@U'9wgHVK$+n)$KC/U
4^sD_uy&%InQuxc6c|yAy%wSd:|UfYu=j!rlUeme?BAMuqfwhJ|G]E[`zf7xTS<d]8vOo0C.wMKbL8dx|yp!*nXJH_&j|$g(??x.
uUgo/~,L:N*pHr]|7K(7|0`)hSqs_A|G8)(@K[Rhr|]C<%t(smXDKhb#[_4iG_Ap(@0|A0!&%x/DH*I'bt:s8CO3Pzl*0IPOfPa
T%>L5sDL[EKtA)NJ$GR%oBqbQ&@da7Bbw+Q%!D>pRg)W7N!aJ%Ya?`t|TcH]eL7$|()<DSu'1PJ5W|<10~6sdY3G;m*uD_.6v3T5
pUn2MBwqPyXUmWFMW>K02>2[!5?vp(9JS(=?0Hs'85_1#&%CKj~[)kaQBfdn?zL1cu?LE4Xz!x6$MhweP:6hP.y;PyN2RRI`q6
n|(Mx!yA['pzbavg5apwj#tN]t^zaOy#tr;d*448'<*KQdDI(a>b7oF`0RC4.Y>s9O.Gb*3*Y2uaJjee|Yw7~cQt_&6|(].rqJPO
NQgVOl(L?mUD2DooHD3*$>Tkl8S~:skd8e$#ijFyz4aH,51QcA:_:~17R<7d[ChvDiC(v:[LzxpE*ww)nKJG1(!mPsV>vvb6c9[w
m1VbZQ7]WNH7@X*i4!O2X]FfkC#!'xEoLowh,4IpE^HbC2+dod),O:cNP_`H4hWf@`|NPgcAJ(?0]g|W;0EE>:@@4H`1TAT6m%
b&!uhKqAEQX#Z'ls$8,2Kq]oKyAzN^[c[^5OGtUOR>8INPTZCgEN`XD*ePWJ'/?d`Yc,U)@V!4Uo,boD'>s`AV$p;Rkg<j@2SlI%
9Qm'P2ze*7(!@Q3c|+Qo;)]<PnQ%L;A9~Zs=JGIl&$MqcYau8$I]aBH6Ky+&rW|X4sY[xP7E=$%glyF~=^E&@srq1|J3y!WYuT]8
59Y8dJPnjuSzV;Ad~&c.v[QVvQ6%O^dNg^z>S%izoSziAn_G)FWR^j@T9v.)AV/`Aixc5K:mdK+#Q1rM1LfqCm|$NIo*7V*qB_+v
fXcM%x!k7.C!9*Jd4[y4DpOw&eD~mmL::rraPfE;T=S)i`&Nz'yMYI3`/Q/M9,bJ`U|>!1V#F$.!4dUy'UKDLbUr'VB>hg#*5'UD"

end CharName
end Scad
